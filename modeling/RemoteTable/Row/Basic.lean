import RemoteTable.Fault
import RemoteTable.Model.Entity

/-!
Rows: the values that a response holds for one entity, by property.
-/

namespace RemoteTable

/-- The values of one row by property. A property that is absent reads as null. -/
abbrev Row := Dict Value

namespace Row

def value (r : Row) (property : String) : Value := (r.find? property).getD .null

def toJson (r : Row) : Json := .object (r.mapValues Value.toJson).toList

/-- What an object holds for a field: under its column, or else under the first name that agrees
with its column or its own name up to case. -/
def memberFor (o : JsonMembers) (f : Field) : Option Json :=
  match o.lookup f.column with
  | some j => some j
  | none =>
    (o.find? (fun e => sameIgnoringCase e.1 f.column || sameIgnoringCase e.1 f.name)).map Prod.snd

/-- The value of a field in an object; null if the object says nothing about it. -/
def readField (origin : Origin) (m : Entity) (o : JsonMembers) (f : Field) : Except Fault Value :=
  match memberFor o f with
  | none => .ok .null
  | some j => (Value.ofJson f.kind j).mapError (.badField origin m.name f.name)

/-- The row of an object, with the given fields. -/
def ofObject (m : Entity) (fields : List Field) (o : JsonMembers) : Except Fault Row :=
  fields.foldlM (fun r f => do
    let v ← readField .load m o f
    .ok (r.insert f.name v)) Dict.empty

/-- The elements of a body as objects. -/
def objectsFrom (i : Nat) : List Json → Except BodyError (List JsonMembers)
  | [] => .ok []
  | .object o :: r => do
    let rest ← objectsFrom (i + 1) r
    .ok (o :: rest)
  | j :: _ => .error (.elementNotObject i j)

/-- The objects of a body: the elements of an array, or one object by itself. -/
def objectsOf (body : ByteArray) : Except BodyError (List JsonMembers) :=
  match Json.ofBytes? body with
  | none => .error .notJson
  | some (.array items) => objectsFrom 0 items
  | some (.object o) => .ok [o]
  | some j => .error (.notRows j)

end Row

end RemoteTable
