import RemoteTable.Json.Printer
import RemoteTable.Model.Kind
import RemoteTable.Number.FloatReader
import RemoteTable.Text.Base64
import RemoteTable.Value.Basic

/-!
Reading values out of documents by the kind that their column is declared with.
-/

namespace RemoteTable

/-- Why a document is no value of a kind. -/
inductive DecodeError where
  | unexpected (expected : Kind) (found : Json)
  | outOfRange (kind : Kind) (number : Json)
  | unreadable (kind : Kind) (text : String)

def DecodeError.message : DecodeError → String
  | .unexpected expected found =>
    "expected " ++ expected.label ++ ", found JSON " ++ found.kindName
  | .outOfRange kind number => number.text ++ " is out of range for " ++ kind.label
  | .unreadable kind text => "cannot parse '" ++ text ++ "' as " ++ kind.label

namespace Value

/-- Reads a text by a reader of one kind of value. -/
def ofText (kind : Kind) (read : List Char → Option Value) (j : Json) : Except DecodeError Value :=
  match j with
  | .string s =>
    match read s.toList with
    | some v => .ok v
    | none => .error (.unreadable kind s)
  | j => .error (.unexpected kind j)

/-- Reads a whole number from `low` to `high`. -/
def ofInteger (kind : Kind) (low high : Int) (j : Json) : Except DecodeError Value :=
  match j with
  | .int n =>
    if low ≤ n ∧ n ≤ high then .ok (.int (Int64.ofInt n)) else .error (.outOfRange kind j)
  | .float _ => .error (.outOfRange kind j)
  | j => .error (.unexpected kind j)

/-- Reads a double, from a number or a text. -/
def floatOfJson (kind : Kind) (j : Json) : Except DecodeError Binary64 :=
  match j with
  | .int n => .ok (Binary.ofInt n)
  | .float x => .ok x
  | .string s =>
    match Binary.read? .double s.toList with
    | some x => .ok x
    | none => .error (.unreadable kind s)
  | j => .error (.unexpected kind j)

/-- Reads a decimal, from the digits of a number or of a text. -/
def decimalOfJson (kind : Kind) (j : Json) : Except DecodeError Value :=
  let ofChars (s : String) : Except DecodeError Value :=
    match Decimal.read? s.toList with
    | some d => .ok (.decimal d)
    | none => .error (.unreadable kind s)
  match j with
  | .int _ => ofChars j.text
  | .float _ => ofChars j.text
  | .string s => ofChars s
  | j => .error (.unexpected kind j)

/-- The value that a document holds for a column of a kind. A null is a null of every kind. -/
def ofJson : Kind → Json → Except DecodeError Value
  | kind, j =>
    match j, kind with
    | .null, _ => .ok .null
    | j, .blob => ofText .blob (fun s => (Text.Base64.decode s).map blob) j
    | .bool b, .bool => .ok (.bool b)
    | j, .bool => .error (.unexpected .bool j)
    | j, .date => ofText .date (fun s => (Date.read? s).map date) j
    | j, .decimal => decimalOfJson .decimal j
    | j, .float32 => (floatOfJson .float32 j).map (fun x => float32 (x.convert .single))
    | j, .float64 => (floatOfJson .float64 j).map float64
    | j, .int16 => ofInteger .int16 Int16.minValue.toInt Int16.maxValue.toInt j
    | j, .int32 => ofInteger .int32 Int32.minValue.toInt Int32.maxValue.toInt j
    | j, .int64 => ofInteger .int64 Int64.minValue.toInt Int64.maxValue.toInt j
    | j, .json => .ok (.json j)
    | j, .other _ => .ok (.json j)
    | .string s, .text => .ok (.text s)
    | j, .text => .error (.unexpected .text j)
    | j, .time => ofText .time (fun s => (Time.read? s).map time) j
    | j, .timestamp => ofText .timestamp (fun s => (Timestamp.read? s).map timestamp) j
    | j, .timestampLocal =>
      ofText .timestampLocal (fun s => (LocalTimestamp.read? s).map timestampLocal) j
    | j, .uuid => ofText .uuid (fun s => (Uuid.read? s).map uuid) j
    | .array items, .list inner => (items.mapM (ofJson inner)).map list
    | j, .list inner => .error (.unexpected (.list inner) j)

end Value

end RemoteTable
