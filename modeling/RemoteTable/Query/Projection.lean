import RemoteTable.Query.Model
import RemoteTable.Query.Obstacle
import RemoteTable.Query.Predicate
import RemoteTable.Row.Basic

/-!
Projections: the columns that a shape needs, and the shape that a row takes.
-/

namespace RemoteTable

/-- The value that a projection makes of a row. -/
inductive Shape where
  | value (v : Value)
  | tuple (items : List Shape)
  | record (typeName : Option String) (fields : List (String × Shape))
  | construct (typeName : String) (args : List Shape)
  | entity (row : Row)

namespace Shape

mutual

/-- The form of a shaped value as a document. -/
def toJson : Shape → Json
  | .value v => v.toJson
  | .tuple items => .array (itemsToJson items)
  | .record _ fields => .ofMembers (fieldsToJson fields)
  | .construct _ args => .array (itemsToJson args)
  | .entity row => row.toJson

def itemsToJson : List Shape → List Json
  | [] => []
  | s :: r => toJson s :: itemsToJson r

def fieldsToJson : List (String × Shape) → List (String × Json)
  | [] => []
  | (n, s) :: r => (n, toJson s) :: fieldsToJson r

end

end Shape

/-- The value of a parameter. -/
def Bag.valueOf (b : Bag) (name : String) : Except Fault Value :=
  match b.find? name with
  | some v => .ok v
  | none => .error (.unboundParameter name)

namespace Projection

mutual

/-- What a projection reads, in order: properties of the subject, or the subject itself. -/
def reads (m : Entity) : Projection → Except Obstacle (List (Option String))
  | .subject => .ok [none]
  | .column p =>
    match m.field? p with
    | some _ => .ok [some p]
    | none => .error (.unmapped p)
  | .const _ => .ok []
  | .param _ => .ok []
  | .tuple items => readsOfItems m items
  | .record _ fields => readsOfFields m fields
  | .construct _ args => readsOfItems m args

def readsOfItems (m : Entity) : List Projection → Except Obstacle (List (Option String))
  | [] => .ok []
  | p :: r => do
    let a ← reads m p
    let b ← readsOfItems m r
    .ok (a ++ b)

def readsOfFields (m : Entity) :
    List (String × Projection) → Except Obstacle (List (Option String))
  | [] => .ok []
  | (_, p) :: r => do
    let a ← reads m p
    let b ← readsOfFields m r
    .ok (a ++ b)

end

mutual

/-- The shape of a row under a projection. -/
def shape (row : Row) (bag : Bag) : Projection → Except Fault Shape
  | .subject => .ok (.entity row)
  | .column p => .ok (.value (row.value p))
  | .const v => .ok (.value v)
  | .param name => (bag.valueOf name).map .value
  | .tuple items => (shapeItems row bag items).map .tuple
  | .record typeName fields => (shapeFields row bag fields).map (.record typeName)
  | .construct typeName args => (shapeItems row bag args).map (.construct typeName)

def shapeItems (row : Row) (bag : Bag) : List Projection → Except Fault (List Shape)
  | [] => .ok []
  | p :: r => do
    let s ← shape row bag p
    let rest ← shapeItems row bag r
    .ok (s :: rest)

def shapeFields (row : Row) (bag : Bag) :
    List (String × Projection) → Except Fault (List (String × Shape))
  | [] => .ok []
  | (n, p) :: r => do
    let s ← shape row bag p
    let rest ← shapeFields row bag r
    .ok ((n, s) :: rest)

end

end Projection

/-- A projection with what it needs from the remote. -/
structure PreparedProjection where
  /-- The columns to ask for; none stands for all. -/
  columns : List String
  /-- The properties that are read, in the order of their first use. -/
  properties : List String
  projection : Projection

namespace PreparedProjection

/-- A projection that needs every column of the entity. -/
def whole (m : Entity) (p : Projection) : PreparedProjection :=
  ⟨[], m.fields.map Field.name, p⟩

/-- The projection of rows to themselves. -/
def entity (m : Entity) : PreparedProjection := whole m .subject

/-- The fields that are read. -/
def fields (c : PreparedProjection) (m : Entity) : List Field := c.properties.filterMap m.field?

end PreparedProjection

/-- Finds out what a projection needs. -/
def Projection.prepare (m : Entity) (p : Projection) : Except Obstacle PreparedProjection := do
  let reads ← p.reads m
  if reads.contains none then .ok (.whole m p)
  else
    let properties := (reads.filterMap id).eraseDups
    .ok ⟨(properties.filterMap m.column?).eraseDups, properties, p⟩

end RemoteTable
