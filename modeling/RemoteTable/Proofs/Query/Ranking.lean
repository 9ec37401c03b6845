import Mathlib.Data.List.Basic
import Mathlib.Data.List.Chain
import Mathlib.Data.List.SplitBy

/-!
Stable sorting. A sorted list is determined by the order that it has among ties, so sorting goes
along with filtering, and ties may be sorted further one group at a time.
-/

namespace RemoteTable.Ranking

variable {α : Type} {le le₁ le₂ : α → α → Bool} {l s s' : List α} {gs : List (List α)}

/-- Any two values have a rank to each other. -/
structure Lawful (le : α → α → Bool) : Prop where
  trans : ∀ a b c, le a b = true → le b c = true → le a c = true
  total : ∀ a b, (le a b || le b a) = true

def tied (le : α → α → Bool) (a b : α) : Bool := le a b && le b a

/-- The rank by a second order among the ties of a first. -/
def refined (le₁ le₂ : α → α → Bool) (a b : α) : Bool := le₁ a b && (!le₁ b a || le₂ a b)

theorem Lawful.refl (h : Lawful le) (a : α) : le a a = true := by simpa using h.total a a

theorem Lawful.le_of_not_le (h : Lawful le) {a b : α} (hab : le b a = false) : le a b = true := by
  simpa [hab] using h.total a b

theorem Lawful.refined (h₁ : Lawful le₁) (h₂ : Lawful le₂) : Lawful (refined le₁ le₂) where
  trans a b c hab hbc := by
    simp only [Ranking.refined, Bool.and_eq_true, Bool.or_eq_true, Bool.not_eq_true'] at *
    obtain ⟨hab, hab'⟩ := hab
    obtain ⟨hbc, hbc'⟩ := hbc
    refine ⟨h₁.trans a b c hab hbc, ?_⟩
    cases hca : le₁ c a with
    | false => exact .inl rfl
    | true =>
      have hba := h₁.trans b c a hbc hca
      have hcb := h₁.trans c a b hca hab
      rw [hba] at hab'
      rw [hcb] at hbc'
      exact .inr (h₂.trans a b c (by simpa using hab') (by simpa using hbc'))
  total a b := by
    have ht₁ := h₁.total a b
    have ht₂ := h₂.total a b
    unfold Ranking.refined
    cases hab : le₁ a b <;> cases hba : le₁ b a <;> simp_all

theorem refined_assoc (le₁ le₂ le₃ : α → α → Bool) :
    refined le₁ (refined le₂ le₃) = refined (refined le₁ le₂) le₃ := by
  funext a b
  unfold refined
  cases le₁ a b <;> cases le₁ b a <;> cases le₂ a b <;> cases le₂ b a <;> rfl

theorem tied_refined (a b : α) :
    tied (refined le₁ le₂) a b = (tied le₁ a b && tied le₂ a b) := by
  unfold tied refined
  cases le₁ a b <;> cases le₁ b a <;> simp

theorem tied_refl (h : Lawful le) (a : α) : tied le a a = true := by simp [tied, h.refl]

theorem tied_comm (a b : α) : tied le a b = tied le b a := Bool.and_comm ..

theorem tied_trans (h : Lawful le) {a b c : α} (hab : tied le a b = true)
    (hbc : tied le b c = true) : tied le a c = true := by
  simp only [tied, Bool.and_eq_true] at *
  exact ⟨h.trans a b c hab.1 hbc.1, h.trans c b a hbc.2 hab.2⟩

/-- Sorting leaves ties as they are. -/
theorem filter_tied_mergeSort (h : Lawful le) (l : List α) (a : α) :
    (l.mergeSort le).filter (tied le a) = l.filter (tied le a) := by
  have hties : (l.filter (tied le a)).Pairwise (fun b c => le b c = true) := by
    refine List.pairwise_of_forall_mem_list fun b hb c hc => ?_
    have hba := (List.mem_filter.1 hb).2
    rw [tied_comm] at hba
    have hbc := tied_trans h hba (List.mem_filter.1 hc).2
    simp only [tied, Bool.and_eq_true] at hbc
    exact hbc.1
  have hsub := (List.sublist_mergeSort h.trans h.total hties List.filter_sublist).filter (tied le a)
  simp only [List.filter_filter, Bool.and_self] at hsub
  refine (hsub.eq_of_length ?_).symm
  exact ((List.mergeSort_perm l le).filter _).length_eq.symm

theorem mem_iff_of_ties (h : Lawful le)
    (hties : ∀ a, s.filter (tied le a) = s'.filter (tied le a)) (a : α) : a ∈ s ↔ a ∈ s' := by
  have ha : ∀ u : List α, a ∈ u ↔ a ∈ u.filter (tied le a) := by simp [tied_refl h]
  rw [ha s, ha s', hties]

/-- Two sorted lists are equal if each value has the same ties in both, in the same order. -/
theorem eq_of_ties (h : Lawful le) (hs : s.Pairwise (fun a b => le a b = true))
    (hs' : s'.Pairwise (fun a b => le a b = true))
    (hties : ∀ a, s.filter (tied le a) = s'.filter (tied le a)) : s = s' := by
  induction s generalizing s' with
  | nil =>
    refine (List.eq_nil_iff_forall_not_mem.2 fun a ha => ?_).symm
    exact absurd ((mem_iff_of_ties h hties a).2 ha) List.not_mem_nil
  | cons x s ih =>
    have hmem := mem_iff_of_ties h hties
    cases s' with
    | nil => exact absurd ((hmem x).1 List.mem_cons_self) List.not_mem_nil
    | cons y s' =>
      obtain ⟨hx, hs₀⟩ := List.pairwise_cons.1 hs
      obtain ⟨hy, hs₁⟩ := List.pairwise_cons.1 hs'
      -- each head is least in its list, so the heads tie, and the first ties are equal
      have hxy : le x y = true := by
        rcases List.mem_cons.1 ((hmem y).2 List.mem_cons_self) with rfl | hm
        · exact h.refl _
        · exact hx y hm
      have hyx : le y x = true := by
        rcases List.mem_cons.1 ((hmem x).1 List.mem_cons_self) with rfl | hm
        · exact h.refl _
        · exact hy x hm
      have htie : tied le x y = true := by simp [tied, hxy, hyx]
      have hhead := hties x
      rw [List.filter_cons_of_pos (tied_refl h x), List.filter_cons_of_pos htie] at hhead
      obtain ⟨rfl, -⟩ := List.cons.inj hhead
      have htail : ∀ a, s.filter (tied le a) = s'.filter (tied le a) := by
        intro a
        have ha := hties a
        simp only [List.filter_cons] at ha
        split at ha
        · exact (List.cons.inj ha).2
        · exact ha
      rw [ih hs₀ hs₁ htail]

theorem eq_mergeSort (h : Lawful le) (hs : s.Pairwise (fun a b => le a b = true))
    (hties : ∀ a, s.filter (tied le a) = l.filter (tied le a)) : s = l.mergeSort le := by
  refine eq_of_ties h hs (List.pairwise_mergeSort h.trans h.total l) fun a => ?_
  rw [hties a, filter_tied_mergeSort h]

theorem mergeSort_filter (h : Lawful le) (p : α → Bool) :
    (l.filter p).mergeSort le = (l.mergeSort le).filter p := by
  refine (eq_mergeSort h ((List.pairwise_mergeSort h.trans h.total l).filter p) fun a => ?_).symm
  rw [List.filter_comm, filter_tied_mergeSort h, List.filter_comm]

/-- The rows of a list in groups of ties, each before the next. -/
structure Grouped (le : α → α → Bool) (gs : List (List α)) : Prop where
  tied : ∀ g ∈ gs, ∀ a ∈ g, ∀ b ∈ g, tied le a b = true
  apart : gs.Pairwise fun g g' => ∀ a ∈ g, ∀ b ∈ g', le b a = false

/-- Sorts each group by itself, and splits it into the ties that are left. -/
def refine (le : α → α → Bool) (gs : List (List α)) : List (List α) :=
  gs.flatMap fun g => (g.mergeSort le).splitBy (tied le)

theorem Grouped.filter (h : Grouped le gs) (p : α → Bool) :
    Grouped le (gs.map (List.filter p)) where
  tied g hg a ha b hb := by
    obtain ⟨g', hg', rfl⟩ := List.mem_map.1 hg
    exact h.tied g' hg' a (List.mem_of_mem_filter ha) b (List.mem_of_mem_filter hb)
  apart := by
    refine List.pairwise_map.2 (h.apart.imp fun hab a ha b hb => ?_)
    exact hab a (List.mem_of_mem_filter ha) b (List.mem_of_mem_filter hb)

/-- The last of a group and the first of the next do not tie, so nothing in the two groups does. -/
theorem apart_of_chain (h : Lawful le) (hne : [] ∉ gs)
    (hchain : gs.IsChain fun g g' => ∃ (ha : g ≠ []) (hb : g' ≠ []),
      Ranking.tied le (g.getLast ha) (g'.head hb) = false)
    (hsorted : gs.flatten.Pairwise fun a b => le a b = true) :
    gs.Pairwise fun g g' => ∀ a ∈ g, ∀ b ∈ g', le b a = false := by
  induction gs with
  | nil => exact .nil
  | cons g gs ih =>
    obtain ⟨hg, hrest, hcross⟩ := List.pairwise_append.1 hsorted
    have hgs : [] ∉ gs := fun hm => hne (List.mem_cons_of_mem _ hm)
    refine List.pairwise_cons.2 ⟨fun g' hg' a ha b hb => ?_, ih hgs hchain.tail hrest⟩
    obtain ⟨g₁, gs, rfl⟩ := List.exists_cons_of_ne_nil (List.ne_nil_of_mem hg')
    obtain ⟨hlast, hhead, htied⟩ := (List.isChain_cons_cons.1 hchain).1
    have hb₁ : b ∈ (g₁ :: gs).flatten := List.mem_flatten.2 ⟨g', hg', hb⟩
    have hx : g₁.head hhead ∈ (g₁ :: gs).flatten :=
      List.mem_flatten.2 ⟨g₁, List.mem_cons_self, List.head_mem hhead⟩
    have hxb : le (g₁.head hhead) b = true := by
      obtain ⟨x, r, rfl⟩ := List.exists_cons_of_ne_nil hhead
      rcases List.mem_cons.1 hb₁ with rfl | hb₁
      · exact h.refl _
      · exact List.rel_of_pairwise_cons hrest hb₁
    have haz : le a (g.getLast hlast) = true :=
      hg.rel_getLast_of_rel_getLast_getLast ha (h.refl _)
    have hzx : le (g.getLast hlast) (g₁.head hhead) = true :=
      hcross _ (List.getLast_mem hlast) _ hx
    cases hba : le b a with
    | false => rfl
    | true =>
      have hxz := h.trans _ _ _ (h.trans _ _ _ hxb hba) haz
      simp [Ranking.tied, hzx, hxz] at htied

theorem grouped_splitBy (h : Lawful le) (hs : s.Pairwise fun a b => le a b = true) :
    Grouped le (s.splitBy (Ranking.tied le)) where
  tied g hg a ha b hb := by
    have hchain := List.isChain_of_mem_splitBy hg
    have hpair : g.Pairwise fun a b => Ranking.tied le a b = true := by
      have : IsTrans α fun a b => Ranking.tied le a b = true := ⟨fun _ _ _ => tied_trans h⟩
      exact List.isChain_iff_pairwise.1 hchain
    have hflip : g.Pairwise (flip fun a b => Ranking.tied le a b = true) :=
      hpair.imp fun hab => by rwa [flip, tied_comm]
    exact hpair.forall_of_forall_of_flip (fun x _ => tied_refl h x) hflip ha hb
  apart := by
    refine apart_of_chain h (List.nil_notMem_splitBy _ s) (List.isChain_getLast_head_splitBy _ s) ?_
    rwa [List.flatten_splitBy]

/-- Refined groups are sorted by both orders. -/
theorem grouped_refine (h₂ : Lawful le₂) (hgs : Grouped le₁ gs) :
    Grouped (refined le₁ le₂) (refine le₂ gs) := by
  have hmem : ∀ (g : List α), ∀ g' ∈ (g.mergeSort le₂).splitBy (tied le₂), ∀ a ∈ g', a ∈ g := by
    intro g g' hg' a ha
    have hflat := List.mem_flatten.2 ⟨g', hg', ha⟩
    rw [List.flatten_splitBy] at hflat
    exact (List.mergeSort_perm g le₂).mem_iff.1 hflat
  have hgroup := fun g : List α =>
    grouped_splitBy h₂ (List.pairwise_mergeSort h₂.trans h₂.total g)
  constructor
  · intro g' hg' a ha b hb
    obtain ⟨g, hg, hg'⟩ := List.mem_flatMap.1 hg'
    rw [tied_refined, hgs.tied g hg a (hmem g g' hg' a ha) b (hmem g g' hg' b hb),
      (hgroup g).tied g' hg' a ha b hb]
    rfl
  · refine List.pairwise_flatMap.2 ⟨fun g hg => ?_, hgs.apart.imp fun hapart g₁ hg₁ g₂ hg₂ => ?_⟩
    · refine (hgroup g).apart.imp_of_mem fun hg₁ hg₂ hapart a ha b hb => ?_
      have htied := hgs.tied g hg a (hmem g _ hg₁ a ha) b (hmem g _ hg₂ b hb)
      simp only [tied, Bool.and_eq_true] at htied
      simp [refined, htied.1, hapart a ha b hb]
    · intro a ha b hb
      simp [refined, hapart a (hmem _ g₁ hg₁ a ha) b (hmem _ g₂ hg₂ b hb)]

theorem Grouped.sorted (h : Lawful le) (hgs : Grouped le gs) :
    gs.flatten.Pairwise fun a b => le a b = true := by
  refine List.pairwise_flatten.2 ⟨fun g hg => ?_, hgs.apart.imp fun hapart a ha b hb => ?_⟩
  · refine List.pairwise_of_forall_mem_list fun a ha b hb => ?_
    have htied := hgs.tied g hg a ha b hb
    simp only [Ranking.tied, Bool.and_eq_true] at htied
    exact htied.1
  · exact h.le_of_not_le (hapart a ha b hb)

theorem flatten_refine : (refine le gs).flatten = gs.flatMap (List.mergeSort · le) := by
  induction gs with
  | nil => rfl
  | cons g gs ih =>
    rw [List.flatMap_cons, ← ih, refine, List.flatMap_cons, List.flatten_append,
      List.flatten_splitBy, refine]

theorem filter_tied_refine (h : Lawful le) (a : α) :
    (refine le gs).flatten.filter (tied le a) = gs.flatten.filter (tied le a) := by
  rw [flatten_refine]
  induction gs with
  | nil => rfl
  | cons g gs ih =>
    rw [List.flatMap_cons, List.filter_append, ih, filter_tied_mergeSort h, List.flatten_cons,
      List.filter_append]

/-- Refining the groups of a sorted list sorts it by both orders. -/
theorem refine_eq_mergeSort (h₁ : Lawful le₁) (h₂ : Lawful le₂) (hgs : Grouped le₁ gs)
    (hl : gs.flatten = l.mergeSort le₁) :
    (refine le₂ gs).flatten = l.mergeSort (refined le₁ le₂) := by
  have h := h₁.refined h₂
  refine eq_mergeSort h ((grouped_refine h₂ hgs).sorted h) fun a => ?_
  have hboth : ∀ u : List α, u.filter (tied (refined le₁ le₂) a) =
      (u.filter (tied le₂ a)).filter (tied le₁ a) := by
    intro u
    have hfun : tied (refined le₁ le₂) a = fun b => tied le₁ a b && tied le₂ a b :=
      funext (tied_refined a)
    rw [hfun, List.filter_filter]
  calc (refine le₂ gs).flatten.filter (tied (refined le₁ le₂) a)
      = (gs.flatten.filter (tied le₂ a)).filter (tied le₁ a) := by
        rw [hboth, filter_tied_refine h₂]
    _ = (l.filter (tied le₁ a)).filter (tied le₂ a) := by
        rw [List.filter_comm, hl, filter_tied_mergeSort h₁]
    _ = l.filter (tied (refined le₁ le₂) a) := by rw [List.filter_comm, hboth]

/-- The first rows of groups. -/
def takeRows : Nat → List (List α) → List (List α)
  | _, [] => []
  | n, g :: gs => g.take n :: takeRows (n - g.length) gs

/-- The groups without their first rows. -/
def dropRows : Nat → List (List α) → List (List α)
  | _, [] => []
  | n, g :: gs => g.drop n :: dropRows (n - g.length) gs

theorem flatten_takeRows (n : Nat) (gs : List (List α)) :
    (takeRows n gs).flatten = gs.flatten.take n := by
  induction gs generalizing n with
  | nil => simp [takeRows]
  | cons g gs ih => simp [takeRows, ih, List.take_append]

theorem flatten_dropRows (n : Nat) (gs : List (List α)) :
    (dropRows n gs).flatten = gs.flatten.drop n := by
  induction gs generalizing n with
  | nil => simp [dropRows]
  | cons g gs ih => simp [dropRows, ih, List.drop_append]

end RemoteTable.Ranking
