import RemoteTable.Dict
import RemoteTable.Metrics.Event

/-!
Counters over events: totals, and the same per table. Counters stop at the greatest number of 64
bits.
-/

namespace RemoteTable

/-- The greatest count. -/
def countMax : Nat := UInt64.size - 1

/-- A sum of counts, or the greatest count if it is larger. -/
def addCounts (a b : Nat) : Nat := min (a + b) countMax

structure Totals where
  loadCalls : Nat
  insertCalls : Nat
  updateCalls : Nat
  deleteCalls : Nat
  rowsLoaded : Nat
  rowsWritten : Nat
  fallbacks : Nat
  deletesElided : Nat
  requestsFailed : Nat
  deriving DecidableEq

structure TableCounts where
  loadCalls : Nat
  writeCalls : Nat
  rowsLoaded : Nat
  rowsWritten : Nat
  fallbacks : Nat
  deletesElided : Nat
  requestsFailed : Nat
  deriving DecidableEq

def Totals.zero : Totals := ⟨0, 0, 0, 0, 0, 0, 0, 0, 0⟩

def TableCounts.zero : TableCounts := ⟨0, 0, 0, 0, 0, 0, 0⟩

/-- Totals with one more event. -/
def Totals.record (t : Totals) : Event → Totals
  | .start .load _ => { t with loadCalls := addCounts t.loadCalls 1 }
  | .start .insert _ => { t with insertCalls := addCounts t.insertCalls 1 }
  | .start .update _ => { t with updateCalls := addCounts t.updateCalls 1 }
  | .start .delete _ => { t with deleteCalls := addCounts t.deleteCalls 1 }
  | .finish .load _ rows => { t with rowsLoaded := addCounts t.rowsLoaded rows }
  | .finish _ _ rows => { t with rowsWritten := addCounts t.rowsWritten rows }
  | .fallback _ _ => { t with fallbacks := addCounts t.fallbacks 1 }
  | .elided _ => { t with deletesElided := addCounts t.deletesElided 1 }
  | .failed _ _ _ => { t with requestsFailed := addCounts t.requestsFailed 1 }

/-- The counts of a table with one more event of that table. -/
def TableCounts.record (t : TableCounts) : Event → TableCounts
  | .start .load _ => { t with loadCalls := addCounts t.loadCalls 1 }
  | .start _ _ => { t with writeCalls := addCounts t.writeCalls 1 }
  | .finish .load _ rows => { t with rowsLoaded := addCounts t.rowsLoaded rows }
  | .finish _ _ rows => { t with rowsWritten := addCounts t.rowsWritten rows }
  | .fallback _ _ => { t with fallbacks := addCounts t.fallbacks 1 }
  | .elided _ => { t with deletesElided := addCounts t.deletesElided 1 }
  | .failed _ _ _ => { t with requestsFailed := addCounts t.requestsFailed 1 }

/-- The table that an event is about. -/
def Event.table : Event → String
  | .start _ table => table
  | .finish _ table _ => table
  | .fallback table _ => table
  | .elided table => table
  | .failed _ table _ => table

/-- The counters since a point in time. -/
structure Counters where
  totals : Totals
  tables : Dict TableCounts
  /-- When counting began, in milliseconds. -/
  openedAt : Nat

namespace Counters

/-- Counters that begin at zero. -/
def reset (now : Nat) : Counters := ⟨.zero, .empty, now⟩

def ofTable (c : Counters) (table : String) : TableCounts := (c.tables.find? table).getD .zero

def record (c : Counters) (e : Event) : Counters :=
  { c with
    totals := c.totals.record e
    tables := c.tables.insert e.table ((c.ofTable e.table).record e) }

def recordAll (c : Counters) (l : List Event) : Counters := l.foldl record c

/-- The counters, unless they began before the point in time that is asked for. -/
def report (c : Counters) (since : Option Nat) : Option Counters :=
  match since with
  | none => some c
  | some t => if t ≤ c.openedAt then some c else none

end Counters

end RemoteTable
