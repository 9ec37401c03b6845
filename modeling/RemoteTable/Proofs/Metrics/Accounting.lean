import RemoteTable.Proofs.Load.Pass
import RemoteTable.Proofs.Metrics.Bracket
import RemoteTable.Proofs.Save.Sequence
import RemoteTable.Load.Rows

/-!
Every request is accounted for once. Whatever becomes of a run, its events are one bracket for each
request that it has sent, in their order, after those of the deletes that are left to the store.
-/

namespace RemoteTable

namespace Save

variable {σ : Type} {n : Nat} {d : Session σ}

/-- The bracket of a request. -/
def InFlight.bracket (f : InFlight) (reply : Option Outcome) : Bracket :=
  ⟨f.write.operation, f.model.table, f.request, reply⟩

section flight

variable (f : InFlight)

variable {f}

end flight

variable {polls : Option Nat} {entries : Vector Entry n} {s : σ} {p : Plan n}

end Save

namespace Cursor

variable {σ : Type} {c : Cursor} {s : σ}

/-- The bracket of a request for rows. -/
def bracket (c : Cursor) (r : Request) (reply : Option Outcome) : Bracket :=
  ⟨.load, c.query.query.table, r, reply⟩

/-- The bracket of the request that is waited for; there is none if it cannot be made. -/
def fetched (t : Transport σ) (c : Cursor) (s : σ) : List Bracket :=
  match c.request with
  | .error _ => []
  | .ok r => [c.bracket r (some (t.send s r).1)]

theorem Served.log_eq_nil {results : List (Except Fault Shape)} {l : List Turn}
    (h : Served results l) : l.flatMap Turn.log = [] :=
  List.flatMap_eq_nil_iff.2 h.silent

end Cursor

end RemoteTable
