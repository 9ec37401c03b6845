import Mathlib.Data.List.Forall2

/-!
Outcomes of sequences that stop at their first error.
-/

namespace Except

variable {ε α β : Type}

theorem bind_eq_ok {x : Except ε α} {f : α → Except ε β} {b : β} :
    x >>= f = .ok b ↔ ∃ a, x = .ok a ∧ f a = .ok b := by
  cases x <;> simp [bind, Except.bind]

theorem map_eq_ok {x : Except ε α} {f : α → β} {b : β} :
    x.map f = .ok b ↔ ∃ a, x = .ok a ∧ f a = b := by
  cases x <;> simp [Except.map]

theorem bind_eq_error {x : Except ε α} {f : α → Except ε β} {e : ε} :
    x >>= f = .error e ↔ x = .error e ∨ ∃ a, x = .ok a ∧ f a = .error e := by
  cases x <;> simp [bind, Except.bind]

theorem mapError_eq_ok {x : Except ε α} {f : ε → β} {a : α} :
    x.mapError f = .ok a ↔ x = .ok a := by
  cases x with
  | error e => exact ⟨nofun, nofun⟩
  | ok b => exact ⟨fun h => congrArg ok (ok.inj h), fun h => congrArg ok (ok.inj h)⟩

theorem mapM_eq_ok {f : α → Except ε β} {l : List α} {bs : List β} :
    l.mapM f = .ok bs ↔ List.Forall₂ (fun a b => f a = .ok b) l bs := by
  induction l generalizing bs with
  | nil =>
    rw [List.mapM_nil, List.forall₂_nil_left_iff]
    exact ⟨fun h => (ok.inj h).symm, fun h => congrArg ok h.symm⟩
  | cons a l ih =>
    rw [List.mapM_cons, List.forall₂_cons_left_iff, bind_eq_ok]
    simp only [bind_eq_ok, ih]
    constructor
    · rintro ⟨b, hb, bs', hbs, h⟩
      exact ⟨b, bs', hb, hbs, (ok.inj h).symm⟩
    · rintro ⟨b, bs', hb, hbs, rfl⟩
      exact ⟨b, hb, bs', hbs, rfl⟩

theorem mapM_congr {f g : α → Except ε β} {l : List α} (h : ∀ a ∈ l, f a = g a) :
    l.mapM f = l.mapM g := by
  induction l with
  | nil => rfl
  | cons a l ih =>
    rw [List.forall_mem_cons] at h
    rw [List.mapM_cons, List.mapM_cons, h.1, ih h.2]

/-- One sequence after another, member by member. -/
theorem forall₂_of_mapM_mapM {γ : Type} {f : α → Except ε β} {g : β → Except ε γ} {l : List α}
    {bs : List β} {cs : List γ} (hf : l.mapM f = .ok bs) (hg : bs.mapM g = .ok cs) :
    List.Forall₂ (fun a c => ∃ b, f a = .ok b ∧ g b = .ok c) l cs := by
  rw [mapM_eq_ok] at hf hg
  induction hf generalizing cs with
  | nil => cases hg; exact .nil
  | cons ha _ ih =>
    cases hg with
    | cons hb hg => exact .cons ⟨_, ha, hb⟩ (ih hg)

/-- Two sequences whose members come to the same come to the same. -/
theorem exists_mapM_of_forall₂ {ε' γ : Type} {f : α → Except ε γ} {g : β → Except ε' γ}
    {l : List α} {l' : List β}
    (h : List.Forall₂ (fun a b => ∃ c, f a = .ok c ∧ g b = .ok c) l l') :
    ∃ cs, l.mapM f = .ok cs ∧ l'.mapM g = .ok cs := by
  induction h with
  | nil => exact ⟨[], rfl, rfl⟩
  | cons hab _ ih =>
    obtain ⟨c, ha, hb⟩ := hab
    obtain ⟨cs, hl, hl'⟩ := ih
    refine ⟨c :: cs, ?_, ?_⟩
    · rw [List.mapM_cons, ha, hl]
      rfl
    · rw [List.mapM_cons, hb, hl']
      rfl

theorem exists_of_mem_mapM {f : α → Except ε β} {l : List α} {bs : List β} {b : β}
    (h : l.mapM f = .ok bs) (hb : b ∈ bs) : ∃ a ∈ l, f a = .ok b := by
  induction mapM_eq_ok.1 h with
  | nil => simp at hb
  | cons ha hl ih =>
    rcases List.mem_cons.1 hb with rfl | hb
    · exact ⟨_, List.mem_cons_self, ha⟩
    · exact (ih (mapM_eq_ok.2 hl) hb).imp fun _ h => ⟨List.mem_cons_of_mem _ h.1, h.2⟩

/-- A sequence fails with one of its members. -/
theorem exists_of_mapM_eq_error {f : α → Except ε β} {l : List α} {e : ε}
    (h : l.mapM f = .error e) : ∃ a ∈ l, f a = .error e := by
  induction l with
  | nil => simp [pure, Except.pure] at h
  | cons a l ih =>
    rw [List.mapM_cons] at h
    rcases bind_eq_error.1 h with ha | ⟨b, -, h⟩
    · exact ⟨a, List.mem_cons_self, ha⟩
    · rcases bind_eq_error.1 h with hl | ⟨bs, -, h⟩
      · exact (ih hl).imp fun _ h => ⟨List.mem_cons_of_mem _ h.1, h.2⟩
      · simp [pure, Except.pure] at h

theorem exists_mapM_iff {f : α → Except ε β} {l : List α} :
    (∃ bs, l.mapM f = .ok bs) ↔ ∀ a ∈ l, ∃ b, f a = .ok b := by
  induction l with
  | nil => exact ⟨by simp, fun _ => ⟨[], rfl⟩⟩
  | cons a l ih =>
    rw [List.forall_mem_cons, ← ih, List.mapM_cons]
    constructor
    · rintro ⟨bs, h⟩
      obtain ⟨b, hb, h⟩ := bind_eq_ok.1 h
      obtain ⟨bs', hbs, -⟩ := bind_eq_ok.1 h
      exact ⟨⟨b, hb⟩, bs', hbs⟩
    · rintro ⟨⟨b, hb⟩, bs, hbs⟩
      rw [hb, hbs]
      exact ⟨b :: bs, rfl⟩

theorem mapM_append_eq_ok {f : α → Except ε β} {l l' : List α} {bs : List β} :
    (l ++ l').mapM f = .ok bs ↔
      ∃ as as', l.mapM f = .ok as ∧ l'.mapM f = .ok as' ∧ bs = as ++ as' := by
  rw [List.mapM_append]
  simp only [bind_eq_ok]
  constructor
  · rintro ⟨as, has, as', has', h⟩
    exact ⟨as, as', has, has', (ok.inj h).symm⟩
  · rintro ⟨as, as', has, has', rfl⟩
    exact ⟨as, has, as', has', rfl⟩

theorem mapM_singleton (f : α → Except ε β) (a : α) : [a].mapM f = (f a).map ([·]) := by
  rw [List.mapM_cons, List.mapM_nil]
  cases f a <;> rfl

theorem forM_eq_ok {f : α → Except ε Unit} {l : List α} (h : l.forM f = .ok ()) :
    ∀ a ∈ l, f a = .ok () := by
  induction l with
  | nil => simp
  | cons b l ih =>
    intro a ha
    obtain ⟨u, hb, hl⟩ := bind_eq_ok.1 h
    rcases List.mem_cons.1 ha with rfl | ha
    · exact hb
    · exact ih hl a ha

/-- A sequence fails with its first member that fails. -/
theorem mapM_eq_error_of_findIdx? {f : α → Except ε β} {l : List α} {i : Nat}
    (h : l.findIdx? (fun a => !(f a).isOk) = some i) :
    ∃ a e, l[i]? = some a ∧ f a = .error e ∧ l.mapM f = .error e := by
  induction l generalizing i with
  | nil => simp at h
  | cons a l ih =>
    rw [List.findIdx?_cons] at h
    cases ha : f a with
    | error e =>
      rw [ha] at h
      cases h
      refine ⟨a, e, rfl, ha, ?_⟩
      rw [List.mapM_cons, ha]
      rfl
    | ok b =>
      rw [ha] at h
      obtain ⟨i', hi', rfl⟩ := Option.map_eq_some_iff.1 h
      obtain ⟨a', e, hget, herror, hl⟩ := ih hi'
      refine ⟨a', e, hget, herror, ?_⟩
      rw [List.mapM_cons, ha, hl]
      rfl

theorem exists_ok_of_lt_findIdx? {f : α → Except ε β} {l : List α} {i j : Nat} {a : α}
    (h : l.findIdx? (fun a => !(f a).isOk) = some j) (hij : i < j) (ha : l[i]? = some a) :
    ∃ b, f a = .ok b := by
  obtain ⟨hj, -, hbefore⟩ := List.findIdx?_eq_some_iff_getElem.1 h
  obtain ⟨hi, rfl⟩ := List.getElem?_eq_some_iff.1 ha
  have hok := hbefore i hij
  cases hfa : f l[i] with
  | ok b => exact ⟨b, rfl⟩
  | error e =>
    rw [hfa] at hok
    exact absurd rfl hok

theorem exists_mapM_of_findIdx?_eq_none {f : α → Except ε β} {l : List α}
    (h : l.findIdx? (fun a => !(f a).isOk) = none) :
    ∃ bs, List.Forall₂ (fun a b => f a = .ok b) l bs ∧ l.mapM f = .ok bs := by
  induction l with
  | nil => exact ⟨[], .nil, rfl⟩
  | cons a l ih =>
    rw [List.findIdx?_cons] at h
    cases ha : f a with
    | error e =>
      rw [ha] at h
      cases h
    | ok b =>
      rw [ha] at h
      obtain ⟨bs, hbs, hl⟩ := ih (Option.map_eq_none_iff.1 h)
      refine ⟨b :: bs, .cons ha hbs, ?_⟩
      rw [List.mapM_cons, ha, hl]
      rfl

/-- Of what a sequence gives, another one makes what both make of a member, one after the other. -/
theorem mapM_of_forall₂ {γ : Type} {f : α → Except ε β} {g : β → Except ε γ} {l : List α}
    {bs : List β} (h : List.Forall₂ (fun a b => f a = .ok b) l bs) :
    bs.mapM g = l.mapM fun a => f a >>= g := by
  induction h with
  | nil => rfl
  | cons ha _ ih =>
    rw [List.mapM_cons, List.mapM_cons, ha, ih]
    rfl

/-- An accumulation fails with one of its steps. -/
theorem exists_of_foldlM_eq_error {step : β → α → Except ε β} {l : List α} {b : β} {e : ε}
    (h : l.foldlM step b = .error e) : ∃ a ∈ l, ∃ b', step b' a = .error e := by
  induction l generalizing b with
  | nil => cases h
  | cons a l ih =>
    rw [List.foldlM_cons] at h
    rcases bind_eq_error.1 h with ha | ⟨b', -, h⟩
    · exact ⟨a, List.mem_cons_self, b, ha⟩
    · obtain ⟨a', ha', b'', h⟩ := ih h
      exact ⟨a', List.mem_cons_of_mem _ ha', b'', h⟩

/-- Every error of a computation has a property. -/
def FailsBy (x : Except ε α) (P : ε → Prop) : Prop := ∀ e, x = .error e → P e

namespace FailsBy

variable {P : ε → Prop}

theorem ok {a : α} : (ok a : Except ε α).FailsBy P := by
  intro e h
  cases h

theorem error {e : ε} (h : P e) : (error e : Except ε α).FailsBy P := by
  intro e' he
  cases he
  exact h

theorem imp {Q : ε → Prop} {x : Except ε α} (hx : x.FailsBy P) (h : ∀ e, P e → Q e) :
    x.FailsBy Q := fun e he => h e (hx e he)

theorem bind {x : Except ε α} {f : α → Except ε β} (hx : x.FailsBy P) (hf : ∀ a, (f a).FailsBy P) :
    (x >>= f).FailsBy P := by
  intro e h
  rcases bind_eq_error.1 h with h | ⟨a, -, h⟩
  · exact hx e h
  · exact hf a e h

theorem map {x : Except ε α} (f : α → β) (hx : x.FailsBy P) : (x.map f).FailsBy P := by
  intro e h
  cases x with
  | error e' =>
    cases h
    exact hx e rfl
  | ok a => cases h

theorem mapError {ε' : Type} {x : Except ε' α} {f : ε' → ε} (h : ∀ e, P (f e)) :
    (x.mapError f).FailsBy P := by
  intro e he
  cases x with
  | error e' =>
    cases he
    exact h e'
  | ok a => cases he

theorem mapM {f : α → Except ε β} (h : ∀ a, (f a).FailsBy P) (l : List α) :
    (l.mapM f).FailsBy P := by
  intro e he
  obtain ⟨a, -, ha⟩ := exists_of_mapM_eq_error he
  exact h a e ha

theorem forM {f : α → Except ε Unit} (h : ∀ a, (f a).FailsBy P) (l : List α) :
    (l.forM f).FailsBy P := by
  induction l with
  | nil => exact .ok
  | cons a l ih => exact (h a).bind fun _ => ih

end FailsBy

end Except
