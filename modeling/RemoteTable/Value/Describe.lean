import RemoteTable.Text.Literal
import RemoteTable.Value.Printer

/-!
Values as they are shown in messages: the name of the kind, and the content in parentheses.
-/

namespace RemoteTable

/-- Descriptions with commas between them. -/
def commaSeparated (l : List String) : String := ", ".intercalate l

namespace Json

mutual

/-- A document as it is shown in messages. -/
def describe : Json → String
  | .null => "Null"
  | .bool b => "Bool(" ++ (if b then "true" else "false") ++ ")"
  | .int n => "Number(" ++ text (.int n) ++ ")"
  | .float x => "Number(" ++ text (.float x) ++ ")"
  | .string s => "String(" ++ Text.literal s ++ ")"
  | .array items => "Array [" ++ commaSeparated (describeItems items) ++ "]"
  | .object members => "Object \x7b" ++ commaSeparated (describeMembers members) ++ "\x7d"

def describeItems : List Json → List String
  | [] => []
  | j :: r => describe j :: describeItems r

def describeMembers : List (String × Json) → List String
  | [] => []
  | (k, j) :: r => (Text.literal k ++ ": " ++ describe j) :: describeMembers r

end

end Json

namespace Value

mutual

/-- A value as it is shown in messages. -/
def describe : Value → String
  | .blob bytes =>
    "Blob([" ++ commaSeparated (bytes.map (fun b => String.ofList (Text.digits b.toNat))) ++ "])"
  | .bool b => "Bool(" ++ (if b then "true" else "false") ++ ")"
  | .date d => "Date(" ++ wireText (.date d) ++ ")"
  | .decimal d => "Decimal(" ++ wireText (.decimal d) ++ ")"
  | .float32 x => "Float32(" ++ String.ofList (x.text .display) ++ ")"
  | .float64 x => "Float64(" ++ String.ofList (x.text .display) ++ ")"
  | .int n => "Int(" ++ wireText (.int n) ++ ")"
  | .json j => "Json(" ++ j.describe ++ ")"
  | .list items => "List([" ++ commaSeparated (describeItems items) ++ "])"
  | .null => "Null"
  | .text s => "Text(" ++ Text.literal s ++ ")"
  | .time t => "Time(" ++ wireText (.time t) ++ ")"
  | .timestamp t => "Timestamp(" ++ wireText (.timestamp t) ++ ")"
  | .timestampLocal t => "TimestampLocal(" ++ wireText (.timestampLocal t) ++ ")"
  | .uint n => "Uint(" ++ wireText (.uint n) ++ ")"
  | .uuid u => "Uuid(" ++ wireText (.uuid u) ++ ")"

def describeItems : List Value → List String
  | [] => []
  | v :: r => describe v :: describeItems r

end

end Value

end RemoteTable
