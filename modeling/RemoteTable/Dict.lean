/-!
Finite maps with text keys. The entries stand in ascending order of their keys, so a map is
determined by what it holds and every listing of one is sorted.
-/

namespace RemoteTable

/-- A finite map from texts to values. -/
structure Dict (α : Type) where
  toList : List (String × α)
  ascending : toList.Pairwise (fun a b => a.1 < b.1)

namespace Dict

variable {α β : Type}

/-- Puts an entry into an ascending list; an entry of the same key gives way. -/
def insertEntry (k : String) (v : α) : List (String × α) → List (String × α)
  | [] => [(k, v)]
  | e :: r =>
    if k < e.1 then (k, v) :: e :: r
    else if e.1 < k then e :: insertEntry k v r
    else (k, v) :: r

theorem mem_insertEntry {k : String} {v : α} {l : List (String × α)} {e : String × α}
    (h : e ∈ insertEntry k v l) : e = (k, v) ∨ e ∈ l := by
  induction l with
  | nil => simpa [insertEntry] using h
  | cons a r ih =>
    unfold insertEntry at h
    split at h
    · simpa using h
    · split at h
      · rcases List.mem_cons.1 h with h | h
        · simp [h]
        · rcases ih h with h | h <;> simp [h]
      · rcases List.mem_cons.1 h with h | h <;> simp [h]

private theorem eq_of_not_lt {a b : String} (h : ¬ a < b) (h' : ¬ b < a) : a = b :=
  String.le_antisymm (String.not_lt.1 h') (String.not_lt.1 h)

theorem insertEntry_ascending {k : String} {v : α} {l : List (String × α)}
    (h : l.Pairwise (fun a b => a.1 < b.1)) :
    (insertEntry k v l).Pairwise (fun a b => a.1 < b.1) := by
  induction l with
  | nil => simp [insertEntry]
  | cons e r ih =>
    obtain ⟨he, hr⟩ := List.pairwise_cons.1 h
    unfold insertEntry
    split
    next hk =>
      refine List.pairwise_cons.2 ⟨fun b hb => ?_, h⟩
      rcases List.mem_cons.1 hb with rfl | hb
      · exact hk
      · exact String.lt_trans hk (he b hb)
    next hk =>
      split
      next hk' =>
        refine List.pairwise_cons.2 ⟨fun b hb => ?_, ih hr⟩
        rcases mem_insertEntry hb with rfl | hb
        · exact hk'
        · exact he b hb
      next hk' =>
        cases eq_of_not_lt hk hk'
        exact List.pairwise_cons.2 ⟨fun b hb => he b hb, hr⟩

def empty : Dict α := ⟨[], .nil⟩

instance : Inhabited (Dict α) := ⟨empty⟩

/-- The map with `k` bound to `v`, whatever it was bound to before. -/
def insert (d : Dict α) (k : String) (v : α) : Dict α :=
  ⟨insertEntry k v d.toList, insertEntry_ascending d.ascending⟩

/-- The value of `k`. -/
def find? (d : Dict α) (k : String) : Option α := d.toList.lookup k

def contains (d : Dict α) (k : String) : Bool := (d.find? k).isSome

def keys (d : Dict α) : List String := d.toList.map Prod.fst

def values (d : Dict α) : List α := d.toList.map Prod.snd

def size (d : Dict α) : Nat := d.toList.length

/-- The map of a list of pairs; of two pairs with one key the later counts. -/
def ofList (l : List (String × α)) : Dict α := l.foldl (fun d e => d.insert e.1 e.2) empty

theorem lookup_cons_eq_ite (e : String × α) (l : List (String × α)) (k : String) :
    (e :: l).lookup k = if k = e.1 then some e.2 else l.lookup k := by
  obtain ⟨k', v⟩ := e
  rw [List.lookup_cons]
  by_cases h : k = k'
  · rw [if_pos h, beq_iff_eq.2 h]
  · rw [if_neg h, beq_false_of_ne h]

theorem lookup_insertEntry (k k' : String) (v : α) (l : List (String × α)) :
    (insertEntry k v l).lookup k' = if k' = k then some v else l.lookup k' := by
  induction l with
  | nil => simp [insertEntry, lookup_cons_eq_ite]
  | cons e r ih =>
    unfold insertEntry
    split
    next => simp [lookup_cons_eq_ite]
    next hk =>
      split
      next hk' =>
        simp only [lookup_cons_eq_ite, ih]
        by_cases h : k' = k
        · subst h
          have : k' ≠ e.1 := fun h => String.lt_irrefl e.1 (h ▸ hk')
          simp [this]
        · simp [h]
      next hk' =>
        cases eq_of_not_lt hk hk'
        by_cases h : k' = e.1 <;> simp [lookup_cons_eq_ite, h]

@[simp] theorem find?_empty (k : String) : (empty : Dict α).find? k = none := rfl

@[simp] theorem find?_insert (d : Dict α) (k k' : String) (v : α) :
    (d.insert k v).find? k' = if k' = k then some v else d.find? k' :=
  lookup_insertEntry k k' v d.toList

theorem find?_foldl_insert (l : List (String × α)) (d : Dict α) (k : String) :
    (l.foldl (fun d e => d.insert e.1 e.2) d).find? k = (l.reverse.lookup k).or (d.find? k) := by
  induction l generalizing d with
  | nil => simp
  | cons e l ih =>
    rw [List.foldl_cons, ih, find?_insert, List.reverse_cons, List.lookup_append]
    by_cases h : k = e.1 <;> cases l.reverse.lookup k <;> simp [lookup_cons_eq_ite, h]

theorem find?_ofList (l : List (String × α)) (k : String) :
    (ofList l).find? k = l.reverse.lookup k := by
  rw [ofList, find?_foldl_insert, find?_empty, Option.or_none]

/-- A pair of a list without another pair of the same key. -/
theorem find?_ofList_of_nodup {l : List (String × α)} (hl : (l.map Prod.fst).Nodup)
    {k : String} {v : α} (h : (k, v) ∈ l) : (ofList l).find? k = some v := by
  rw [find?_ofList]
  obtain ⟨a, b, rfl⟩ := List.append_of_mem h
  have hb : ∀ e ∈ b.reverse, k ≠ e.1 := by
    intro e he hk
    have hmem : e.1 ∈ b.map Prod.fst := List.mem_map_of_mem (List.mem_reverse.1 he)
    simp only [List.map_append, List.map_cons, List.nodup_append, List.nodup_cons] at hl
    exact hl.2.1.1 (hk ▸ hmem)
  have hnone : b.reverse.lookup k = none := by
    generalize b.reverse = r at hb
    induction r with
    | nil => rfl
    | cons e r ih =>
      rw [lookup_cons_eq_ite, if_neg (hb e List.mem_cons_self)]
      exact ih (fun x hx => hb x (List.mem_cons_of_mem _ hx))
  simp [List.lookup_append, hnone]

/-- The map with every value passed through `f`. -/
def mapValues (f : α → β) (d : Dict α) : Dict β :=
  ⟨d.toList.map (fun e => (e.1, f e.2)), List.pairwise_map.2 d.ascending⟩

end Dict

end RemoteTable
