import RemoteTable.Fault
import RemoteTable.Metrics.Event

/-!
What a run shows to an observer, in order: requests, events for whoever counts, and the values that
entries take over. Also the reading of an outcome that all requests share.
-/

namespace RemoteTable

/-- One thing that an observer of a run sees. -/
inductive Notice where
  | sent (r : Request)
  | event (e : Event)
  /-- The entry at a position took over a value that the store assigned. -/
  | generated (position : Nat) (property : String) (v : Value)
  /-- A reference of the entry at a position followed the key of its principal. -/
  | repointed (position : Nat) (property : String) (v : Value)

abbrev Log := List Notice

/-- The events of a log. -/
def Log.events (l : Log) : List Event :=
  l.filterMap fun
    | .event e => some e
    | _ => none

/-- The requests of a log. -/
def Log.requests (l : Log) : List Request :=
  l.filterMap fun
    | .sent r => some r
    | _ => none

/-- The successful response of an outcome, or its fault and the event of the failure. -/
def readOutcome (op : Operation) (table : String) (o : Outcome) : Except (Event × Fault) Response :=
  match o with
  | .error e => .error (.failed op table none, .undelivered e)
  | .ok r =>
    if r.isSuccess then .ok r
    else .error (.failed op table (some r.status), .rejected (.ofResponse r))

end RemoteTable
