import RemoteTable.Notice
import RemoteTable.Query.QueryString

/-!
Cursors: one pass over the rows of a query. The request is sent when the first row is asked for;
whoever stops waiting for the response can ask again, and a new request is sent. After an error and
after the last row there is nothing more.
-/

namespace RemoteTable

/-- How far a cursor has come, as far as it shows. -/
inductive Phase where
  | notStarted
  | fetching
  | ready
  | exhausted
  deriving DecidableEq

def Phase.label : Phase → String
  | .notStarted => "not_started"
  | .fetching => "fetching"
  | .ready => "ready"
  | .exhausted => "exhausted"

/-- How far a cursor has come, with the rows that are still to be shaped. -/
inductive Progress where
  | notStarted
  | fetching
  | ready (rows : List JsonMembers)
  | exhausted

/-- One pass over the rows of a query. -/
structure Cursor where
  query : PreparedQuery
  endpoint : Endpoint
  bag : Bag
  state : Progress

namespace Cursor

variable {σ : Type}

def start (q : PreparedQuery) (e : Endpoint) (bag : Bag) : Cursor := ⟨q, e, bag, .notStarted⟩

def phase (c : Cursor) : Phase :=
  match c.state with
  | .notStarted => .notStarted
  | .fetching => .fetching
  | .ready _ => .ready
  | .exhausted => .exhausted

def table (c : Cursor) : String := c.query.query.table

def request (c : Cursor) : Except Fault Request := c.query.request c.endpoint c.bag

/-- The shaped row of an object. -/
def shape (c : Cursor) (o : JsonMembers) : Except Fault Shape := do
  let row ← Row.ofObject c.query.model (c.query.projection.fields c.query.model) o
  c.query.projection.projection.shape row c.bag

def opening (c : Cursor) (r : Request) : Log := [.event (.start .load c.table), .sent r]

def closing (c : Cursor) (rows : Nat) : Log := [.event (.finish .load c.table rows)]

/-- The rows of an outcome, and what is seen of it. -/
def receive (c : Cursor) (o : Outcome) : Log × Except Fault (List JsonMembers) :=
  match readOutcome .load c.table o with
  | .error (event, f) => (.event event :: c.closing 0, .error f)
  | .ok r =>
    match Row.objectsOf r.body with
    | .error e => (c.closing 0, .error (.badBody .load e))
    | .ok rows => (c.closing rows.length, .ok rows)

/-- The next of some rows, and how far the cursor has come with it. -/
def nextRow (c : Cursor) : List JsonMembers → Option (Except Fault Shape) × Progress
  | [] => (none, .exhausted)
  | o :: r =>
    match c.shape o with
    | .ok s => (some (.ok s), .ready r)
    | .error f => (some (.error f), .exhausted)

/-- Fetches the rows. -/
def fetch (c : Cursor) (t : Transport σ) (s : σ) : Except Fault (List JsonMembers) × Log × σ :=
  match c.request with
  | .error f => (.error f, [], s)
  | .ok r =>
    let (outcome, s) := t.send s r
    let (log, rows) := c.receive outcome
    (rows, c.opening r ++ log, s)

/-- The next row, if there is one. -/
def next (c : Cursor) (t : Transport σ) (s : σ) :
    Option (Except Fault Shape) × Cursor × Log × σ :=
  let unfetched : Option (Except Fault Shape) × Cursor × Log × σ :=
    match c.fetch t s with
    | (.error f, log, s) => (some (.error f), { c with state := .exhausted }, log, s)
    | (.ok rows, log, s) =>
      let (item, state) := c.nextRow rows
      (item, { c with state := state }, log, s)
  match c.state with
  | .notStarted => unfetched
  | .fetching => unfetched
  | .ready rows =>
    let (item, state) := c.nextRow rows
    (item, { c with state := state }, [], s)
  | .exhausted => (none, c, [], s)

/-- Asks for the next row without waiting for a response: `none` if a request was sent for it. -/
def poll (c : Cursor) : Option (Option (Except Fault Shape)) × Cursor × Log :=
  let unfetched : Option (Option (Except Fault Shape)) × Cursor × Log :=
    match c.request with
    | .error f => (some (some (.error f)), { c with state := .exhausted }, [])
    | .ok r => (none, { c with state := .fetching }, c.opening r ++ c.closing 0)
  match c.state with
  | .notStarted => unfetched
  | .fetching => unfetched
  | .ready rows =>
    let (item, state) := c.nextRow rows
    (some item, { c with state := state }, [])
  | .exhausted => (some none, c, [])

end Cursor

end RemoteTable
