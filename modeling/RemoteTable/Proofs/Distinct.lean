import Mathlib.Data.List.Nodup

/-!
Lists from which the repetitions are taken, each element standing where it stood first.
-/

namespace List

variable {α β : Type} [BEq α] [LawfulBEq α]

theorem nodup_eraseDups (l : List α) : l.eraseDups.Nodup := by
  match l with
  | [] => exact List.nodup_nil
  | a :: l =>
    rw [List.eraseDups_cons, List.nodup_cons]
    refine ⟨fun h => ?_, nodup_eraseDups _⟩
    simp [List.mem_eraseDups] at h
termination_by l.length
decreasing_by exact Nat.lt_succ_of_le (List.length_filter_le _ _)

/-- An element that is passed over may as well be taken out before. -/
theorem filterMap_filter_of_none {f : α → Option β} {a : α} (ha : f a = none) (l : List α) :
    (l.filter (fun x => !x == a)).filterMap f = l.filterMap f := by
  induction l with
  | nil => rfl
  | cons x l ih =>
    by_cases hx : x = a
    · subst hx
      simp [ha, ih]
    · simp [hx, List.filterMap_cons, ih]

/-- What comes of the repetitions of an element only repeats what came of the element. -/
theorem eraseDups_filterMap_eraseDups [BEq β] [LawfulBEq β] (f : α → Option β) (l : List α) :
    (l.eraseDups.filterMap f).eraseDups = (l.filterMap f).eraseDups := by
  match l with
  | [] => rfl
  | a :: l =>
    rw [List.eraseDups_cons]
    cases ha : f a with
    | none =>
      rw [List.filterMap_cons_none ha, List.filterMap_cons_none ha,
        eraseDups_filterMap_eraseDups f, filterMap_filter_of_none ha]
    | some b =>
      -- without the results that equal the first, the element itself gives none
      let others := fun x => (f x).filter (fun y => !y == b)
      have hnone : others a = none := by simp [others, ha]
      rw [List.filterMap_cons_some ha, List.filterMap_cons_some ha, List.eraseDups_cons,
        List.eraseDups_cons, List.filter_filterMap, List.filter_filterMap,
        eraseDups_filterMap_eraseDups others, filterMap_filter_of_none hnone]
termination_by l.length
decreasing_by all_goals exact Nat.lt_succ_of_le (List.length_filter_le _ _)

end List
