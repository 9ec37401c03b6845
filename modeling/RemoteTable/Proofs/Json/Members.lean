import Mathlib
import RemoteTable.Json.Reader

/-!
The members of objects that are read: no two of them have one name, so an object holds a member or
does not.
-/

namespace RemoteTable.Json

/-- A number is no object. -/
theorem readNumber?_ne_object {negative : Bool} {s r : List Char} {members : JsonMembers} :
    readNumber? negative s ≠ some (.object members, r) := by
  intro h
  unfold readNumber? at h
  simp only at h
  split at h
  · cases h
  · obtain ⟨⟨fraction, r'⟩, -, h⟩ := Option.bind_eq_some_iff.1 h
    obtain ⟨⟨exponent, r''⟩, -, h⟩ := Option.bind_eq_some_iff.1 h
    simp only at h
    generalize Binary.ofScientific .double _ _ _ = x at h
    split at h
    · obtain ⟨j, hj, h⟩ := Option.bind_eq_some_iff.1 h
      cases h
      unfold exactInt? at hj
      split at hj <;> split at hj <;> simp at hj
    · obtain ⟨j, hj, h⟩ := Option.bind_eq_some_iff.1 h
      cases h
      simp at hj

theorem ascending_of_readValue? {fuel depth : Nat} {s r : List Char} {members : JsonMembers}
    (h : readValue? fuel depth s = some (.object members, r)) :
    members.Pairwise fun a b => a.1 < b.1 := by
  cases fuel with
  | zero => simp [readValue?] at h
  | succ fuel =>
    rw [readValue?] at h
    split at h
    · simp at h
    · simp at h
    · simp at h
    · simp [Option.bind_eq_some_iff] at h
    · split at h
      · cases h
      · split at h
        · cases h
        · simp [Option.bind_eq_some_iff] at h
    · split at h
      · cases h
      · split at h
        · cases h
          exact .nil
        · obtain ⟨x, -, h⟩ := Option.bind_eq_some_iff.1 h
          simp only [ofMembers, Option.some.injEq, Prod.mk.injEq, object.injEq] at h
          rw [← h.1]
          exact (Dict.ofList x.1).ascending
    · exact absurd h readNumber?_ne_object
    · exact absurd h readNumber?_ne_object

/-- The members of an object that is read stand in ascending order of their names. -/
theorem ascending_of_ofBytes? {b : ByteArray} {members : JsonMembers}
    (h : ofBytes? b = some (.object members)) : members.Pairwise fun a b => a.1 < b.1 := by
  obtain ⟨s, -, h⟩ := Option.bind_eq_some_iff.1 h
  simp only [read?] at h
  split at h
  next j r hread =>
    split at h
    · cases h
      exact ascending_of_readValue? hread
    · cases h
  next => cases h

/-- In ascending order a name is found where it stands. -/
theorem lookup_eq_some_iff {members : JsonMembers} (h : members.Pairwise fun a b => a.1 < b.1)
    {name : String} {j : Json} : members.lookup name = some j ↔ (name, j) ∈ members := by
  induction members with
  | nil => simp
  | cons e members ih =>
    obtain ⟨hfirst, hrest⟩ := List.pairwise_cons.1 h
    rw [Dict.lookup_cons_eq_ite, List.mem_cons]
    by_cases hname : name = e.1
    · subst hname
      rw [if_pos rfl]
      constructor
      · intro hj
        cases hj
        exact .inl rfl
      · intro hmem
        rcases hmem with hmem | hmem
        · exact congrArg (fun e : String × Json => some e.2) hmem.symm
        · exact absurd (hfirst _ hmem) (String.lt_irrefl _)
    · rw [if_neg hname, ih hrest]
      constructor
      · exact .inr
      · intro hmem
        rcases hmem with rfl | hmem
        · exact absurd rfl hname
        · exact hmem

end RemoteTable.Json
