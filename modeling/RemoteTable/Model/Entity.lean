import RemoteTable.Model.Kind
import RemoteTable.Text.Lowercase

/-!
Entity types: the table that holds them, their fields, their key, and the keys of other types
that they refer to.
-/

namespace RemoteTable

/-- A mapped property. -/
structure Field where
  name : String
  column : String
  kind : Kind
  /-- The store assigns the value. -/
  storeGenerated : Bool
  nullable : Bool

/-- A field in the column that its name suggests: the name in lower case. -/
def Field.ofName (name : String) (kind : Kind) : Field :=
  ⟨name, Text.lowercase name, kind, false, false⟩

/-- What the store does to the rows that refer to a deleted row. -/
inductive DeleteRule where
  | cascade
  | noAction
  | restrict
  | setNull
  deriving DecidableEq

/-- A reference from the rows of one type to those of another, the principal. -/
structure ForeignKey where
  properties : List String
  principal : String
  /-- The properties of the principal that are referred to; none stands for its key. -/
  principalKey : List String
  onDelete : DeleteRule

/-- An entity type. -/
structure Entity where
  name : String
  table : String
  fields : List Field
  key : List String
  foreignKeys : List ForeignKey

namespace Entity

/-- The field of a property. -/
def field? (m : Entity) (property : String) : Option Field :=
  m.fields.find? (fun f => f.name == property)

/-- The column of a property. -/
def column? (m : Entity) (property : String) : Option String :=
  (m.field? property).map Field.column

def hasKey (m : Entity) : Bool := !m.key.isEmpty

def generatedFields (m : Entity) : List Field := m.fields.filter Field.storeGenerated

end Entity

namespace ForeignKey

def cascades (k : ForeignKey) : Bool := k.onDelete == .cascade

/-- The properties of the principal that are referred to. -/
def resolvedKey (k : ForeignKey) (principal : Entity) : List String :=
  if k.principalKey.isEmpty then principal.key else k.principalKey

end ForeignKey

end RemoteTable
