import RemoteTable.Dict
import RemoteTable.Number.Binary

/-!
Structured documents: the seven kinds of value that a request or response body is made of.
-/

namespace RemoteTable

/-- A document. Whole numbers from -2^63 to 2^64 - 1 are exact, all others are doubles. The members
of an object stand in ascending order of their names. -/
inductive Json where
  | null
  | bool (b : Bool)
  | int (n : Int)
  | float (x : Binary64)
  | string (s : String)
  | array (items : List Json)
  | object (members : List (String × Json))

namespace Json

/-- The object with the given members; of two of one name the later counts. -/
def ofMembers (l : List (String × Json)) : Json := .object (Dict.ofList l).toList

def isNull : Json → Bool
  | .null => true
  | _ => false

/-- The name of the kind of a document. -/
def kindName : Json → String
  | .null => "null"
  | .bool _ => "bool"
  | .int _ => "number"
  | .float _ => "number"
  | .string _ => "string"
  | .array _ => "array"
  | .object _ => "object"

end Json

/-- The members of an object. -/
abbrev JsonMembers := List (String × Json)

end RemoteTable
