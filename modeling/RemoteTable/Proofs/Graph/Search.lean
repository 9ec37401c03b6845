import Mathlib.Data.Fintype.Card
import Mathlib.Logic.Relation
import RemoteTable.Change.Graph

/-!
What a depth-first search knows while it is under way. The nodes being visited form a path. Every
node on the stack reaches those met after it and leads back to the path, and the complete sets
are closed under edges, so a node whose link is its own number closes a set.
-/

namespace RemoteTable.Digraph

open Relation (ReflTransGen)

variable {n : Nat}

def Edge (g : Digraph n) (v w : Fin n) : Prop := w ∈ g.get v

/-- There is a walk from one node to the other, which may be empty. -/
def Reaches (g : Digraph n) : Fin n → Fin n → Prop := ReflTransGen g.Edge

theorem Reaches.trans {g : Digraph n} {u v w : Fin n} (h : g.Reaches u v) (h' : g.Reaches v w) :
    g.Reaches u w :=
  ReflTransGen.trans h h'

/-- A set of nodes that no edge leaves is not left by a walk. -/
theorem Reaches.closed {g : Digraph n} {P : Fin n → Prop} (hP : ∀ v w, P v → g.Edge v w → P w)
    {u v : Fin n} (h : g.Reaches u v) (hu : P u) : P v := by
  induction h with
  | refl => exact hu
  | tail _ he ih => exact hP _ _ ih he

/-- Complete sets: no edge leaves them, and none reaches a later one. -/
structure Settled (g : Digraph n) (sets : List (List (Fin n))) : Prop where
  nonempty : ∀ c ∈ sets, c ≠ []
  strong : ∀ c ∈ sets, ∀ u ∈ c, ∀ v, v ∈ c ↔ g.Reaches u v ∧ g.Reaches v u
  closed : ∀ u w, u ∈ sets.flatten → g.Edge u w → w ∈ sets.flatten
  earlier : sets.Pairwise fun a b => ∀ u ∈ a, ∀ v ∈ b, ¬ g.Reaches u v

theorem settled_nil (g : Digraph n) : g.Settled [] :=
  ⟨by simp, by simp, by simp, List.Pairwise.nil⟩

/-- A strongly connected set that only leads to itself and to complete sets is the next one. -/
theorem Settled.snoc {g : Digraph n} {sets : List (List (Fin n))} (h : g.Settled sets)
    {c : List (Fin n)} (hne : c ≠ []) (hfresh : ∀ u ∈ c, u ∉ sets.flatten)
    (hstrong : ∀ u ∈ c, ∀ v ∈ c, g.Reaches u v)
    (hclosed : ∀ u ∈ c, ∀ w, g.Edge u w → w ∈ c ∨ w ∈ sets.flatten) : g.Settled (sets ++ [c]) := by
  have hout : ∀ u w, (u ∈ c ∨ u ∈ sets.flatten) → g.Edge u w → w ∈ c ∨ w ∈ sets.flatten := by
    rintro u w (hu | hu) he
    · exact hclosed u hu w he
    · exact .inr (h.closed u w hu he)
  constructor
  · intro d hd
    rcases List.mem_append.1 hd with hd | hd
    · exact h.nonempty d hd
    · rw [List.mem_singleton.1 hd]
      exact hne
  · intro d hd u hu v
    rcases List.mem_append.1 hd with hd | hd
    · exact h.strong d hd u hu v
    · obtain rfl := List.mem_singleton.1 hd
      refine ⟨fun hv => ⟨hstrong u hu v hv, hstrong v hv u hu⟩, fun ⟨huv, hvu⟩ => ?_⟩
      rcases huv.closed hout (.inl hu) with hv | hv
      · exact hv
      · exact absurd (hvu.closed h.closed hv) (hfresh u hu)
  · intro u w hu he
    have hu' : u ∈ c ∨ u ∈ sets.flatten := by simpa [or_comm] using hu
    simpa [or_comm] using hout u w hu' he
  · refine List.pairwise_append.2 ⟨h.earlier, List.pairwise_singleton _ _, ?_⟩
    intro a ha d hd u hu v hv hr
    obtain rfl := List.mem_singleton.1 hd
    exact hfresh v hv (hr.closed h.closed (List.mem_flatten.2 ⟨a, ha, hu⟩))

namespace Search

def Met (s : Search n) (v : Fin n) : Prop := (s.index.get v).isSome

/-- The number of a node that has been met. -/
def rank (s : Search n) (v : Fin n) : Nat := (s.index.get v).getD 0

/-- Numbers once given are kept. -/
structure Grows (s s' : Search n) : Prop where
  index : ∀ v, s.Met v → s'.index.get v = s.index.get v
  next : s.next ≤ s'.next

namespace Grows

variable {s s' s'' : Search n} {v : Fin n}

theorem refl (s : Search n) : s.Grows s := ⟨fun _ _ => rfl, Nat.le_refl _⟩

theorem met (h : s.Grows s') (hv : s.Met v) : s'.Met v := by
  unfold Met
  rw [h.index v hv]
  exact hv

theorem rank (h : s.Grows s') (hv : s.Met v) : s'.rank v = s.rank v := by
  unfold Search.rank
  rw [h.index v hv]

theorem trans (h : s.Grows s') (h' : s'.Grows s'') : s.Grows s'' :=
  ⟨fun v hv => (h'.index v (h.met hv)).trans (h.index v hv), h.next.trans h'.next⟩

end Grows

theorem index_meet (s : Search n) (v u : Fin n) :
    (s.meet v).index.get u = if u = v then some s.next else s.index.get u := by
  have h : (s.meet v).index.get u = if v.val = u.val then some s.next else s.index.get u :=
    Vector.getElem_set v.isLt u.isLt
  by_cases hu : u = v
  · rw [h, if_pos hu, if_pos (by rw [hu])]
  · rw [h, if_neg hu, if_neg (fun hv => hu (Fin.ext hv.symm))]

theorem met_meet (s : Search n) (v u : Fin n) : (s.meet v).Met u ↔ u = v ∨ s.Met u := by
  unfold Met
  rw [index_meet]
  by_cases h : u = v <;> simp [h]

theorem rank_meet_self (s : Search n) (v : Fin n) : (s.meet v).rank v = s.next := by
  simp [rank, index_meet]

theorem grows_meet {s : Search n} {v : Fin n} (hv : ¬ s.Met v) : s.Grows (s.meet v) := by
  refine ⟨fun u hu => ?_, Nat.le_succ _⟩
  rw [index_meet, if_neg]
  rintro rfl
  exact hv hu

/-- What holds between visits, with the nodes under visit on the path, the innermost first. -/
structure Valid (g : Digraph n) (path : List (Fin n)) (s : Search n) : Prop where
  path_nodup : path.Nodup
  path_subset : ∀ v ∈ path, v ∈ s.stack
  nodup : (s.stack ++ s.components.flatten).Nodup
  met_iff : ∀ v, s.Met v ↔ v ∈ s.stack ∨ v ∈ s.components.flatten
  descending : s.stack.Pairwise fun u v => s.rank v < s.rank u
  below : ∀ v ∈ s.stack, s.rank v < s.next
  finished : ∀ v ∈ s.stack, v ∉ path → ∀ w, g.Edge v w → s.Met w
  onward : ∀ u ∈ s.stack, ∀ v ∈ s.stack, s.rank u ≤ s.rank v → g.Reaches u v
  home : ∀ v ∈ s.stack, ∃ u ∈ path, s.rank u ≤ s.rank v ∧ g.Reaches v u
  settled : g.Settled s.components

theorem valid_start (g : Digraph n) : Valid g [] (start n) := by
  have hmet : ∀ v, ¬ (start n).Met v := by
    intro v
    have h : (start n).index.get v = none := Vector.getElem_replicate v.isLt
    simp [Met, h]
  refine ⟨List.nodup_nil, ?_, List.nodup_nil, ?_, List.Pairwise.nil, ?_, ?_, ?_, ?_, settled_nil g⟩
  · intro v hv
    exact absurd hv List.not_mem_nil
  · intro v
    exact ⟨fun h => absurd h (hmet v), fun h => by simp [start] at h⟩
  all_goals
    intro v hv
    exact absurd hv List.not_mem_nil

section

variable {g : Digraph n} {path : List (Fin n)} {s : Search n} {v : Fin n}

theorem Valid.met_of_stack (h : s.Valid g path) {u : Fin n} (hu : u ∈ s.stack) : s.Met u :=
  (h.met_iff u).2 (.inl hu)

/-- A path that leaves a node out is shorter than the graph has nodes. -/
theorem Valid.length_path_lt (h : s.Valid g path) (hv : ¬ s.Met v) : path.length < n := by
  have hnodup : (v :: path).Nodup :=
    List.nodup_cons.2 ⟨fun hm => hv (h.met_of_stack (h.path_subset v hm)), h.path_nodup⟩
  have hle := hnodup.length_le_card
  simp only [List.length_cons, Fintype.card_fin] at hle
  omega

/-- Meeting a node that the whole path leads to. -/
theorem Valid.meet (h : s.Valid g path) (hv : ¬ s.Met v) (hpath : ∀ u ∈ path, g.Reaches u v) :
    (s.meet v).Valid g (v :: path) := by
  have hstack : v ∉ s.stack := fun hm => hv (h.met_of_stack hm)
  have hrank : ∀ u ∈ s.stack, (s.meet v).rank u = s.rank u :=
    fun u hu => (grows_meet hv).rank (h.met_of_stack hu)
  have hself := rank_meet_self s v
  constructor
  · exact List.nodup_cons.2 ⟨fun hm => hstack (h.path_subset v hm), h.path_nodup⟩
  · intro u hu
    rcases List.mem_cons.1 hu with rfl | hu
    · exact List.mem_cons_self
    · exact List.mem_cons_of_mem _ (h.path_subset u hu)
  · have hfresh : v ∉ s.stack ++ s.components.flatten := by
      intro hm
      exact hv ((h.met_iff v).2 (List.mem_append.1 hm))
    exact List.nodup_cons.2 ⟨hfresh, h.nodup⟩
  · intro u
    rw [met_meet, h.met_iff]
    simp [Search.meet, or_assoc]
  · refine List.pairwise_cons.2 ⟨fun u hu => ?_, h.descending.imp_of_mem fun ha hb hab => ?_⟩
    · rw [hrank u hu, hself]
      exact h.below u hu
    · rwa [hrank _ ha, hrank _ hb]
  · intro u hu
    rcases List.mem_cons.1 hu with rfl | hu
    · rw [hself]
      exact Nat.lt_succ_self _
    · rw [hrank u hu]
      exact Nat.lt_succ_of_lt (h.below u hu)
  · intro u hu hup w he
    have hu' : u ∈ s.stack := (List.mem_cons.1 hu).resolve_left (fun hm => hup (by simp [hm]))
    exact (grows_meet hv).met
      (h.finished u hu' (fun hm => hup (List.mem_cons_of_mem _ hm)) w he)
  · intro a ha b hb hab
    rcases List.mem_cons.1 ha with hav | has <;> rcases List.mem_cons.1 hb with hbv | hbs
    · rw [hav, hbv]
      exact .refl
    · rw [hav, hself, hrank b hbs] at hab
      have := h.below b hbs
      omega
    · obtain ⟨x, hx, _, hax⟩ := h.home a has
      rw [hbv]
      exact hax.trans (hpath x hx)
    · rw [hrank a has, hrank b hbs] at hab
      exact h.onward a has b hbs hab
  · intro u hu
    rcases List.mem_cons.1 hu with rfl | hu
    · exact ⟨u, List.mem_cons_self, Nat.le_refl _, .refl⟩
    · obtain ⟨x, hx, hle, hux⟩ := h.home u hu
      refine ⟨x, List.mem_cons_of_mem _ hx, ?_, hux⟩
      rwa [hrank u hu, hrank x (h.path_subset x hx)]
  · exact h.settled

/-- A search that grew and is back at its old stack. -/
theorem Valid.regrown {s' : Search n} (h : s.Valid g path) (hgrow : s.Grows s')
    (hstack : s'.stack = s.stack) (hnodup : (s'.stack ++ s'.components.flatten).Nodup)
    (hmet : ∀ v, s'.Met v ↔ v ∈ s'.stack ∨ v ∈ s'.components.flatten)
    (hsettled : g.Settled s'.components) : s'.Valid g path := by
  have hrank : ∀ u ∈ s.stack, s'.rank u = s.rank u :=
    fun u hu => hgrow.rank (h.met_of_stack hu)
  constructor
  · exact h.path_nodup
  · rw [hstack]
    exact h.path_subset
  · exact hnodup
  · exact hmet
  · rw [hstack]
    exact h.descending.imp_of_mem fun ha hb hab => by rwa [hrank _ ha, hrank _ hb]
  · intro u hu
    rw [hstack] at hu
    rw [hrank u hu]
    exact Nat.lt_of_lt_of_le (h.below u hu) hgrow.next
  · intro u hu hup w he
    rw [hstack] at hu
    exact hgrow.met (h.finished u hu hup w he)
  · intro a ha b hb hab
    rw [hstack] at ha hb
    rw [hrank a ha, hrank b hb] at hab
    exact h.onward a ha b hb hab
  · intro u hu
    rw [hstack] at hu
    obtain ⟨x, hx, hle, hux⟩ := h.home u hu
    refine ⟨x, hx, ?_, hux⟩
    rwa [hrank u hu, hrank x (h.path_subset x hx)]
  · exact hsettled

end

end Search

end RemoteTable.Digraph
