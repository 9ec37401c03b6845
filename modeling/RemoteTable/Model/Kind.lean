/-!
Field kinds: the types that columns are declared with.
-/

namespace RemoteTable

/-- The declared type of a column. -/
inductive Kind where
  | blob
  | bool
  | date
  | decimal
  | float32
  | float64
  | int16
  | int32
  | int64
  | json
  | text
  | time
  | timestamp
  | timestampLocal
  | uuid
  | list (inner : Kind)
  /-- A type that is not modelled; its documents are kept as they are. -/
  | other (name : String)
  deriving DecidableEq

namespace Kind

/-- The name of a kind in messages. -/
def label : Kind → String
  | .blob => "blob"
  | .bool => "bool"
  | .date => "date"
  | .decimal => "decimal"
  | .float32 => "float32"
  | .float64 => "float64"
  | .int16 => "int16"
  | .int32 => "int32"
  | .int64 => "int64"
  | .json => "json"
  | .text => "text"
  | .time => "time"
  | .timestamp => "timestamp"
  | .timestampLocal => "timestamp_local"
  | .uuid => "uuid"
  | .list _ => "list"
  | .other name => name

/-- The kinds that are modelled and hold no other kind. -/
def scalars : List Kind :=
  [.blob, .bool, .date, .decimal, .float32, .float64, .int16, .int32, .int64, .json, .text, .time,
    .timestamp, .timestampLocal, .uuid]

/-- The scalar kind of a name. -/
def ofLabel? (label : String) : Option Kind := scalars.find? (fun k => k.label == label)

end Kind

end RemoteTable
