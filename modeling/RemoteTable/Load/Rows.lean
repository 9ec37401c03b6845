import RemoteTable.Load.Cursor

/-!
Loading: all rows of a query at once, shaped or read into a type of the host.
-/

namespace RemoteTable

/-- A type of the host that documents are read into. -/
structure Target (α : Type) where
  name : String
  read? : Json → Option α

/-- The rows of a query, in the order of the response. -/
structure Rows (α : Type) where
  table : String
  toList : List α

namespace Rows

variable {α : Type}

def count (r : Rows α) : Nat := r.toList.length

def isEmpty (r : Rows α) : Bool := r.toList.isEmpty

/-- The only row. -/
def one (r : Rows α) : Except Fault α :=
  match r.toList with
  | [] => .error (.noRow r.table)
  | [x] => .ok x
  | _ => .error (.manyRows r.table r.count)

/-- The only row, if there is one. -/
def oneOrNone (r : Rows α) : Except Fault (Option α) :=
  match r.toList with
  | [] => .ok none
  | _ => r.one.map some

end Rows

/-- Whether a caller takes rows as they come, or all of them when they are there. -/
inductive Delivery where
  | blocking
  | async
  deriving DecidableEq

namespace Load

variable {σ α : Type}

/-- A shaped row read into a type. -/
def readShaped (t : Target α) (s : Shape) : Except Fault α :=
  match t.read? s.toJson with
  | some x => .ok x
  | none => .error (.badShape t.name)

/-- Fetches the rows of a query and makes something of all of them. -/
def drain (t : Transport σ) (e : Endpoint) (q : PreparedQuery) (bag : Bag) (s : σ)
    (f : Cursor → List JsonMembers → Except Fault (List α)) : Except Fault (Rows α) × Log × σ :=
  let c := Cursor.start q e bag
  match c.fetch t s with
  | (.error fault, log, s) => (.error fault, log, s)
  | (.ok rows, log, s) => ((f c rows).map (Rows.mk c.table), log, s)

/-- All shaped rows of a query. -/
def fetch (t : Transport σ) (e : Endpoint) (q : PreparedQuery) (bag : Bag) (s : σ) :
    Except Fault (Rows Shape) × Log × σ :=
  drain t e q bag s fun c rows => rows.mapM c.shape

/-- All rows of a query, read into a type. In blocking delivery each row is shaped and read before
the next one; in async delivery all rows are shaped before the first is read. -/
def fetchAs (d : Delivery) (target : Target α) (t : Transport σ) (e : Endpoint) (q : PreparedQuery)
    (bag : Bag) (s : σ) : Except Fault (Rows α) × Log × σ :=
  drain t e q bag s fun c rows =>
    match d with
    | .blocking => rows.mapM fun o => c.shape o >>= readShaped target
    | .async => rows.mapM c.shape >>= fun shaped => shaped.mapM (readShaped target)

end Load

end RemoteTable
