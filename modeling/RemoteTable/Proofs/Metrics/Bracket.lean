import Mathlib
import RemoteTable.Notice
import RemoteTable.Proofs.Row.Documents

/-!
What is reported of a request. Its start and its end enclose it, with its failure between them if it
fails, and the end tells how many rows it was about.
-/

namespace RemoteTable

def Event.isFailure : Event → Bool
  | .failed _ _ _ => true
  | _ => false

@[simp] theorem Event.isFailure_start (op : Operation) (table : String) :
    (Event.start op table).isFailure = false := rfl

@[simp] theorem Event.isFailure_finish (op : Operation) (table : String) (rows : Nat) :
    (Event.finish op table rows).isFailure = false := rfl

/-- A request that was sent, with its outcome if it was waited for. -/
structure Bracket where
  operation : Operation
  table : String
  request : Request
  reply : Option Outcome

namespace Bracket

/-- The failure that is reported: there is no status if there is no response. -/
def failure? (b : Bracket) : Option Event :=
  match b.reply with
  | none => none
  | some (.error _) => some (.failed b.operation b.table none)
  | some (.ok r) =>
    if 200 ≤ r.status ∧ r.status < 300 then none
    else some (.failed b.operation b.table (some r.status))

/-- The rows of a successful response: those of the document in its body, or the one that was
written. -/
def rows (b : Bracket) : Nat :=
  match b.reply with
  | none => 0
  | some (.error _) => 0
  | some (.ok r) =>
    if 200 ≤ r.status ∧ r.status < 300 then
      if b.operation = .load then ((Json.ofBytes? r.body).map Row.rowsIn).getD 0 else 1
    else 0

def events (b : Bracket) : List Event :=
  .start b.operation b.table :: (b.failure?.toList ++ [.finish b.operation b.table b.rows])

end Bracket

section

variable {l l' : Log}

theorem Log.events_map (l : List Event) : Log.events (l.map .event) = l := by
  simp [Log.events, List.filterMap_map]

end

namespace Bracket

variable {b : Bracket} {l : List Bracket}

end Bracket

section readOutcome

variable {b : Bracket} {o : Outcome} {r : Response}

end readOutcome

end RemoteTable
