import Mathlib
import RemoteTable.Load.Cursor
import RemoteTable.Proofs.Query.PushDown
import RemoteTable.Proofs.Row.Documents

/-!
What there is to yield. The results of a query are told here by the outcome of its request: the rows
of the body in their order, each with what the query makes of it, up to the first that is an error.
-/

namespace RemoteTable.Cursor

variable {σ : Type}

/-- A list up to its first error. -/
def throughError {ε α : Type} : List (Except ε α) → List (Except ε α)
  | [] => []
  | .ok a :: l => .ok a :: throughError l
  | .error e :: _ => [.error e]

/-- What a query makes of an object: what its projection comes to for the row of the object, or the
fault of the first field that cannot be read. -/
inductive Shapes (q : PreparedQuery) (bag : Bag) (o : JsonMembers) : Except Fault Shape → Prop
  | row {row : Row} {r : Except Fault Shape}
      (reads : Row.RowOf q.model o (q.projection.fields q.model) (.ok row))
      (evaluates : q.projection.projection.Evaluates row bag r) : Shapes q bag o r
  | bad {f : Fault} (reads : Row.RowOf q.model o (q.projection.fields q.model) (.error f)) :
    Shapes q bag o (.error f)

/-- What an outcome has to yield to a query: the fault that there are no rows for, or the rows of
the body, shaped one by one up to the first that cannot be. -/
inductive Yields (q : PreparedQuery) (bag : Bag) : Outcome → List (Except Fault Shape) → Prop
  | undelivered (e : SendError) : Yields q bag (.error e) [.error (.undelivered e)]
  | rejected {r : Response} (status : ¬ (200 ≤ r.status ∧ r.status < 300)) :
    Yields q bag (.ok r) [.error (.rejected (.ofResponse r))]
  | malformed {r : Response} {e : BodyError} (status : 200 ≤ r.status ∧ r.status < 300)
      (body : Row.Splits r.body (.error e)) : Yields q bag (.ok r) [.error (.badBody .load e)]
  | rows {r : Response} {rows : List JsonMembers} {shaped : List (Except Fault Shape)}
      (status : 200 ≤ r.status ∧ r.status < 300) (body : Row.Splits r.body (.ok rows))
      (shapes : List.Forall₂ (Shapes q bag) rows shaped) :
    Yields q bag (.ok r) (throughError shaped)

/-- All that there is to yield when the request of a query is sent: its fault, if it cannot be made,
and otherwise what is in the outcome. -/
def Results (t : Transport σ) (q : PreparedQuery) (e : Endpoint) (bag : Bag) (s : σ)
    (results : List (Except Fault Shape)) : Prop :=
  match q.request e bag with
  | .error f => results = [.error f]
  | .ok r => Yields q bag (t.send s r).1 results

/-- The results that a cursor works through. -/
def results (t : Transport σ) (c : Cursor) (s : σ) : List (Except Fault Shape) :=
  match c.request with
  | .error f => [.error f]
  | .ok r =>
    match readOutcome .load c.table (t.send s r).1 with
    | .error (_, f) => [.error f]
    | .ok response =>
      match Row.objectsOf response.body with
      | .error e => [.error (.badBody .load e)]
      | .ok rows => throughError (rows.map c.shape)

/-- The shape of an object is what the query makes of it. -/
theorem shapes_shape (c : Cursor) (o : JsonMembers) : Shapes c.query c.bag o (c.shape o) := by
  have hrow : Row.RowOf c.query.model o (c.query.projection.fields c.query.model)
      (Row.ofObject c.query.model (c.query.projection.fields c.query.model) o) := by
    apply Row.rowOf_ofObject
    intro f hf g hg hname
    have hf' := (PreparedProjection.field?_of_mem_fields hf).2
    rw [hname, (PreparedProjection.field?_of_mem_fields hg).2] at hf'
    exact (Option.some.inj hf').symm
  unfold shape
  cases hobject : Row.ofObject c.query.model (c.query.projection.fields c.query.model) o with
  | error f => exact .bad (hobject ▸ hrow)
  | ok row => exact .row (hobject ▸ hrow) (Projection.evaluates_shape ..)

/-- The results of a cursor are all that there is to yield. -/
theorem results_of_cursor (t : Transport σ) (c : Cursor) (s : σ) :
    Results t c.query c.endpoint c.bag s (results t c s) := by
  unfold Results results request
  cases c.query.request c.endpoint c.bag with
  | error f => rfl
  | ok r =>
    simp only
    generalize (t.send s r).1 = outcome
    cases outcome with
    | error e => exact .undelivered e
    | ok response =>
      by_cases hstatus : 200 ≤ response.status ∧ response.status < 300
      · have hsuccess : response.isSuccess = true := Response.isSuccess_iff.2 hstatus
        simp only [readOutcome, hsuccess, if_true]
        have hbody := Row.splits_objectsOf response.body
        cases hrows : Row.objectsOf response.body with
        | error e => exact .malformed hstatus (hrows ▸ hbody)
        | ok rows =>
          simp only
          refine .rows hstatus (hrows ▸ hbody) (List.forall₂_map_right_iff.2 ?_)
          exact List.forall₂_same.2 fun o _ => shapes_shape c o
      · have hfailure : response.isSuccess = false := decide_eq_false hstatus
        simp only [readOutcome, hfailure, Bool.false_eq_true, if_false]
        exact .rejected hstatus

end RemoteTable.Cursor
