import Mathlib
import RemoteTable.Metrics.Counters

/-!
The counts of the tables add up to the totals. Whatever is recorded and reset, a table has counted
its own events since the last reset and nothing else, and a total that has not reached the greatest
count is the sum of the counts of all tables.
-/

namespace RemoteTable

/-- What is counted, of each table and in total. -/
inductive Tally where
  | loadCalls
  | writeCalls
  | rowsLoaded
  | rowsWritten
  | fallbacks
  | deletesElided
  | requestsFailed
  deriving DecidableEq

/-- A count of a table. -/
def TableCounts.count (t : TableCounts) : Tally → Nat
  | .loadCalls => t.loadCalls
  | .writeCalls => t.writeCalls
  | .rowsLoaded => t.rowsLoaded
  | .rowsWritten => t.rowsWritten
  | .fallbacks => t.fallbacks
  | .deletesElided => t.deletesElided
  | .requestsFailed => t.requestsFailed

/-- A total. Writes are counted by their operations. -/
def Totals.count (t : Totals) : Tally → Nat
  | .loadCalls => t.loadCalls
  | .writeCalls => t.insertCalls + t.updateCalls + t.deleteCalls
  | .rowsLoaded => t.rowsLoaded
  | .rowsWritten => t.rowsWritten
  | .fallbacks => t.fallbacks
  | .deletesElided => t.deletesElided
  | .requestsFailed => t.requestsFailed

/-- What an event adds to a count. -/
def Event.adds (e : Event) (k : Tally) : Nat :=
  match e, k with
  | .start op _, .loadCalls => if op = .load then 1 else 0
  | .start op _, .writeCalls => if op = .load then 0 else 1
  | .finish op _ rows, .rowsLoaded => if op = .load then rows else 0
  | .finish op _ rows, .rowsWritten => if op = .load then 0 else rows
  | .fallback _ _, .fallbacks => 1
  | .elided _, .deletesElided => 1
  | .failed _ _ _, .requestsFailed => 1
  | _, _ => 0

section step

variable {k : Tally} {e : Event}

@[simp] theorem TableCounts.count_zero (k : Tally) : TableCounts.zero.count k = 0 := by
  cases k <;> rfl

@[simp] theorem Totals.count_zero (k : Tally) : Totals.zero.count k = 0 := by cases k <;> rfl

/-- An event is added to the counts of its table, up to the greatest count. -/
theorem TableCounts.count_record {t : TableCounts} (h : t.count k ≤ countMax) :
    (t.record e).count k = min (t.count k + e.adds k) countMax := by
  cases k <;> simp only [count] at h <;> cases e with
  | start op table => cases op <;> simp [record, count, Event.adds, addCounts, h]
  | finish op table rows => cases op <;> simp [record, count, Event.adds, addCounts, h]
  | fallback table reason => simp [record, count, Event.adds, addCounts, h]
  | elided table => simp [record, count, Event.adds, addCounts, h]
  | failed op table status => simp [record, count, Event.adds, addCounts, h]

/-- A total that has not reached the greatest count has lost nothing. -/
theorem Totals.count_record {t : Totals} (h : (t.record e).count k < countMax) :
    (t.record e).count k = t.count k + e.adds k := by
  cases k <;> cases e with
  | start op table =>
    cases op <;> simp only [record, count, Event.adds, addCounts] at h ⊢ <;> simp <;> omega
  | finish op table rows =>
    cases op <;> simp only [record, count, Event.adds, addCounts] at h ⊢ <;> simp <;> omega
  | fallback table reason =>
    simp only [record, count, Event.adds, addCounts] at h ⊢
    omega
  | elided table =>
    simp only [record, count, Event.adds, addCounts] at h ⊢
    omega
  | failed op table status =>
    simp only [record, count, Event.adds, addCounts] at h ⊢
    omega

end step

/-- What some events add to a count. -/
def addedTo (k : Tally) (l : List Event) : Nat := (l.map (·.adds k)).sum

@[simp] theorem addedTo_nil (k : Tally) : addedTo k [] = 0 := rfl

@[simp] theorem addedTo_cons (k : Tally) (e : Event) (l : List Event) :
    addedTo k (e :: l) = e.adds k + addedTo k l := rfl

theorem TableCounts.count_foldl {t : TableCounts} {k : Tally} (h : t.count k ≤ countMax)
    (l : List Event) :
    (l.foldl record t).count k = min (t.count k + addedTo k l) countMax := by
  induction l generalizing t with
  | nil => simp [h]
  | cons e l ih =>
    have hnext := count_record (e := e) h
    rw [List.foldl_cons, ih (by omega), hnext, addedTo_cons]
    omega

namespace Dict

variable {α : Type}

/-- The values of a map with an entry more: what the key had before is replaced. -/
theorem sum_insert (f : α → Nat) (d : Dict α) (k : String) (v : α) :
    ((d.insert k v).values.map f).sum + ((d.find? k).map f).getD 0 =
      (d.values.map f).sum + f v := by
  obtain ⟨l, hl⟩ := d
  simp only [insert, values, find?]
  induction l with
  | nil => simp [insertEntry]
  | cons e l ih =>
    obtain ⟨hfirst, hrest⟩ := List.pairwise_cons.1 hl
    have ih := ih hrest
    unfold insertEntry
    split
    next hk =>
      -- every key of the list comes after the new one
      have hnone : (e :: l).lookup k = none := by
        refine List.lookup_eq_none_iff.2 fun x hx => bne_iff_ne.2 fun heq => ?_
        have hlt : k < x.1 := by
          rcases List.mem_cons.1 hx with rfl | hx
          · exact hk
          · exact String.lt_trans hk (hfirst x hx)
        rw [heq] at hlt
        exact String.lt_irrefl x.1 hlt
      simp [hnone]
      omega
    next hk =>
      split
      next hk' =>
        have hne : k ≠ e.1 := fun h => String.lt_irrefl e.1 (h ▸ hk')
        simp only [lookup_cons_eq_ite, if_neg hne, List.map_cons, List.sum_cons] at ih ⊢
        omega
      next hk' =>
        have heq : k = e.1 := String.le_antisymm (String.not_lt.1 hk') (String.not_lt.1 hk)
        simp only [lookup_cons_eq_ite, if_pos heq, List.map_cons, List.sum_cons, Option.map_some,
          Option.getD_some]
        omega

end Dict

namespace Counters

/-- The sum of a count over all tables. -/
def sumOf (c : Counters) (k : Tally) : Nat := (c.tables.values.map (·.count k)).sum

variable {c : Counters} {k : Tally}

/-- The sum in which the counts of a table are replaced. -/
theorem sum_insert_tables (c : Counters) (k : Tally) (table : String) (t : TableCounts) :
    ((c.tables.insert table t).values.map (·.count k)).sum + (c.ofTable table).count k =
      c.sumOf k + t.count k := by
  have hbefore : ((c.tables.find? table).map (·.count k)).getD 0 = (c.ofTable table).count k := by
    unfold ofTable
    cases c.tables.find? table <;> simp
  rw [← hbefore]
  exact c.tables.sum_insert (·.count k) table t

theorem count_le_sumOf (c : Counters) (k : Tally) (table : String) :
    (c.ofTable table).count k ≤ c.sumOf k := by
  have hsum := c.sum_insert_tables k table .zero
  rw [TableCounts.count_zero] at hsum
  omega

/-- One step: what an event adds to the count of its table, it adds to the sum. -/
theorem sumOf_record {e : Event} (h : c.sumOf k + e.adds k ≤ countMax) :
    (c.record e).sumOf k = c.sumOf k + e.adds k := by
  have hle := c.count_le_sumOf k e.table
  have hsum := c.sum_insert_tables k e.table ((c.ofTable e.table).record e)
  rw [TableCounts.count_record (by omega), Nat.min_eq_left (by omega)] at hsum
  change (c.record e).sumOf k + _ = _ at hsum
  omega

theorem sumOf_recordAll {l : List Event} (h : c.sumOf k + addedTo k l ≤ countMax) :
    (c.recordAll l).sumOf k = c.sumOf k + addedTo k l := by
  induction l generalizing c with
  | nil => rfl
  | cons e l ih =>
    rw [addedTo_cons] at h ⊢
    have hstep := sumOf_record (c := c) (e := e) (k := k) (by omega)
    have hrest := ih (c := c.record e) (by omega)
    rw [recordAll, List.foldl_cons]
    rw [recordAll] at hrest
    omega

/-- A total that has not reached the greatest count is all that the events have added. -/
theorem total_recordAll {l : List Event} (h : (c.recordAll l).totals.count k < countMax) :
    (c.recordAll l).totals.count k = c.totals.count k + addedTo k l := by
  induction l generalizing c with
  | nil => rfl
  | cons e l ih =>
    have hrest := ih (c := c.record e) h
    have hlast : (c.recordAll (e :: l)).totals.count k =
      ((c.record e).recordAll l).totals.count k := rfl
    have hstep : (c.record e).totals.count k = c.totals.count k + e.adds k :=
      Totals.count_record (show (c.record e).totals.count k < countMax by omega)
    rw [addedTo_cons]
    omega

/-- A table counts its own events. -/
theorem ofTable_recordAll (c : Counters) (l : List Event) (table : String) :
    (c.recordAll l).ofTable table =
      (l.filter (·.table = table)).foldl TableCounts.record (c.ofTable table) := by
  induction l generalizing c with
  | nil => rfl
  | cons e l ih =>
    have hnext : (c.record e).ofTable table =
        if table = e.table then (c.ofTable e.table).record e else c.ofTable table := by
      simp only [ofTable, record, Dict.find?_insert]
      split <;> rfl
    rw [recordAll, List.foldl_cons, ← recordAll, ih, hnext, List.filter_cons]
    by_cases h : e.table = table
    · simp [h]
    · simp [h, Ne.symm h]

theorem contains_recordAll (c : Counters) (l : List Event) (table : String) :
    (c.recordAll l).tables.contains table =
      (c.tables.contains table || l.any (·.table = table)) := by
  induction l generalizing c with
  | nil => simp [recordAll]
  | cons e l ih =>
    have hnext : (c.record e).tables.contains table =
        (c.tables.contains table || decide (e.table = table)) := by
      simp only [Dict.contains, record, Dict.find?_insert]
      by_cases h : table = e.table
      · simp [h]
      · simp [h, Ne.symm h]
    rw [recordAll, List.foldl_cons, ← recordAll, ih, hnext, List.any_cons, Bool.or_assoc]

/-- What is done to the counters of a thread. -/
inductive Use where
  | record (e : Event)
  | reset (now : Nat)

def use (c : Counters) : Use → Counters
  | .record e => c.record e
  | .reset now => reset now

/-- The counters after some uses. -/
def useAll (c : Counters) (l : List Use) : Counters := l.foldl use c

/-- The events that are remembered after one more use. -/
def remember (l : List Event) : Use → List Event
  | .record e => l ++ [e]
  | .reset _ => []

/-- The events since the last reset. -/
def sinceReset (l : List Use) : List Event := l.foldl remember []

/-- Nothing is left of what was recorded before a reset. -/
theorem exists_useAll (now : Nat) (l : List Use) :
    ∃ t, (reset now).useAll l = (reset t).recordAll (sinceReset l) := by
  suffices h : ∀ before, ∃ t,
      ((reset now).recordAll before).useAll l = (reset t).recordAll (l.foldl remember before) from
    h []
  induction l generalizing now with
  | nil => exact fun before => ⟨now, rfl⟩
  | cons x l ih =>
    intro before
    cases x with
    | record e =>
      obtain ⟨t, ht⟩ := ih now (before ++ [e])
      rw [recordAll, List.foldl_append] at ht
      exact ⟨t, ht⟩
    | reset later => exact ih later []

/-- The counts of the tables add up to every total that has not reached the greatest count, and each
of them is what the events of its own table since the last reset have added. -/
theorem sumOf_useAll (now : Nat) (l : List Use) :
    let c := (reset now).useAll l
    (∀ k, c.totals.count k < countMax → c.sumOf k = c.totals.count k) ∧
      (∀ table k, (c.ofTable table).count k =
        min (addedTo k ((sinceReset l).filter (·.table = table))) countMax) ∧
      ∀ table, c.tables.contains table ↔ ∃ e ∈ sinceReset l, e.table = table := by
  intro c
  obtain ⟨t, ht⟩ := exists_useAll now l
  have hc : c = (reset t).recordAll (sinceReset l) := ht
  rw [hc]
  refine ⟨fun k hk => ?_, fun table k => ?_, fun table => ?_⟩
  · have htotal := total_recordAll hk
    have hzero : (reset t).totals.count k = 0 := Totals.count_zero k
    have hsum : (reset t).sumOf k = 0 := rfl
    have hsums := sumOf_recordAll (c := reset t) (k := k) (l := sinceReset l) (by omega)
    omega
  · have hnone : (reset t).ofTable table = .zero := rfl
    rw [ofTable_recordAll, TableCounts.count_foldl (by simp [hnone]), hnone,
      TableCounts.count_zero, Nat.zero_add]
  · have hnone : (reset t).tables.contains table = false := rfl
    rw [contains_recordAll, hnone, Bool.false_or, List.any_eq_true]
    simp

/-- Events of two tables, the first of them before a reset. -/
def shopUses : List Use :=
  [.record (.start .insert "shops"), .record (.finish .insert "shops" 1), .reset 7,
    .record (.start .insert "goods"), .record (.start .delete "shops"),
    .record (.failed .delete "shops" (some 409)), .record (.finish .delete "shops" 0),
    .record (.finish .insert "goods" 1), .record (.start .load "goods"),
    .record (.finish .load "goods" 5), .record (.start .update "goods"),
    .record (.finish .update "goods" 1), .record (.elided "goods"),
    .record (.fallback "shops" "grouping")]

/-- The writes of two tables, of three kinds in total. -/
theorem sumOf_shopUses :
    (((reset 3).useAll shopUses).totals.count .writeCalls = 3 ∧ 3 < countMax) ∧
      ((reset 3).useAll shopUses).sumOf .writeCalls = 3 ∧
      (((reset 3).useAll shopUses).ofTable "goods").count .writeCalls = 2 := by
  have htotal : ((reset 3).useAll shopUses).totals.count .writeCalls = 3 := by decide
  have hmax : 3 < countMax := by decide
  obtain ⟨hsum, htables, -⟩ := sumOf_useAll 3 shopUses
  refine ⟨⟨htotal, hmax⟩, ?_, ?_⟩
  · rw [hsum .writeCalls (by rw [htotal]; exact hmax), htotal]
  · rw [htables]
    decide

end Counters

end RemoteTable
