import RemoteTable.Json.Printer
import RemoteTable.Text.Base64
import RemoteTable.Text.Blank
import RemoteTable.Value.Basic

/-!
Values on the wire. Each value has one text, the same in filters and in bodies; inside lists and
groups it stands in quotes if it could be mistaken for their punctuation.
-/

namespace RemoteTable.Value

open Text

/-- Whether a character sets parts of a list or group apart, or a quoted item. -/
def isDelimiter (c : Char) : Bool :=
  isBlank c || [',', '.', ':', '(', ')', '"', '\\'].contains c

def isAmbiguous (s : List Char) : Bool := s.isEmpty || s.any isDelimiter

/-- A quote or backslash inside quotes has a backslash before it. -/
def escapeItemChar (c : Char) : List Char := if c = '"' ∨ c = '\\' then ['\\', c] else [c]

/-- The text of an item: in quotes if it needs them. -/
def quoteItem (s : List Char) : List Char :=
  if isAmbiguous s then '"' :: s.flatMap escapeItemChar ++ ['"'] else s

/-- Items between parentheses with commas between them. -/
def joinItems : List (List Char) → List Char
  | [] => []
  | [s] => s
  | s :: r => s ++ ',' :: joinItems r

mutual

def chars : Value → List Char
  | .blob bytes => Base64.encode bytes
  | .bool b => (if b then "true" else "false").toList
  | .date d => d.text
  | .decimal d => d.text
  | .float32 x => x.toDouble.text .plain
  | .float64 x => x.text .plain
  | .int n => integer n.toInt
  | .json j => j.chars
  | .list items => '(' :: joinItems (itemsChars items) ++ [')']
  | .null => "null".toList
  | .text s => s.toList
  | .time t => t.text
  | .timestamp t => t.text
  | .timestampLocal t => t.text
  | .uint n => digits n.toNat
  | .uuid u => u.text

/-- The texts of values as items. -/
def itemsChars : List Value → List (List Char)
  | [] => []
  | v :: r => quoteItem (chars v) :: itemsChars r

end

/-- The text of a value, as it stands after the operator of a filter. -/
def wireText (v : Value) : String := String.ofList v.chars

/-- The text of a value inside a list or a group. -/
def itemText (v : Value) : String := String.ofList (quoteItem v.chars)

/-- The text of a value as a list; any other value counts as its only item. -/
def listText (v : Value) : String :=
  match v with
  | .list items => String.ofList ('(' :: joinItems (itemsChars items) ++ [')'])
  | v => String.ofList ('(' :: quoteItem v.chars ++ [')'])

/-- A float in a body; one that is not finite has no number and is written as text. -/
def jsonOfFloat (x : Binary64) : Json :=
  if x.isFinite then .float x else .string (String.ofList (x.text .plain))

mutual

/-- The form of a value in a body. What a document has no number or literal for is written as the
same text as in a filter. -/
def toJson : Value → Json
  | .bool b => .bool b
  | .float32 x => jsonOfFloat x.toDouble
  | .float64 x => jsonOfFloat x
  | .int n => .int n.toInt
  | .json j => j
  | .list items => .array (itemsToJson items)
  | .null => .null
  | .text s => .string s
  | .uint n => .int n.toNat
  | .blob bytes => .string (wireText (.blob bytes))
  | .date d => .string (wireText (.date d))
  | .decimal d => .string (wireText (.decimal d))
  | .time t => .string (wireText (.time t))
  | .timestamp t => .string (wireText (.timestamp t))
  | .timestampLocal t => .string (wireText (.timestampLocal t))
  | .uuid u => .string (wireText (.uuid u))

def itemsToJson : List Value → List Json
  | [] => []
  | v :: r => toJson v :: itemsToJson r

end

end RemoteTable.Value
