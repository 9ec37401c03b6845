import RemoteTable.Json.Basic
import RemoteTable.Number.FloatText
import RemoteTable.Text.Hex

/-!
The compact text of a document: no blanks, and nothing escaped that need not be.
-/

namespace RemoteTable.Json

open Text

/-- A character inside a quoted text. -/
def escapeChar (c : Char) : List Char :=
  if c = '"' then ['\\', '"']
  else if c = '\\' then ['\\', '\\']
  else if c = '\n' then ['\\', 'n']
  else if c = '\r' then ['\\', 'r']
  else if c = '\t' then ['\\', 't']
  else if c = Char.ofNat 8 then ['\\', 'b']
  else if c = Char.ofNat 12 then ['\\', 'f']
  else if c.toNat < 32 then
    let (high, low) := nibbles (UInt8.ofNat c.toNat)
    ['\\', 'u', '0', '0', hexChar high, hexChar low]
  else [c]

def quoted (s : String) : List Char := '"' :: s.toList.flatMap escapeChar ++ ['"']

/-- The text of a number that is no integer. -/
def floatText (x : Binary64) : List Char := x.text .document

mutual

def chars : Json → List Char
  | .null => "null".toList
  | .bool b => (if b then "true" else "false").toList
  | .int n => integer n
  | .float x => floatText x
  | .string s => quoted s
  | .array items => '[' :: itemChars items ++ [']']
  | .object members => '\x7b' :: memberChars members ++ ['\x7d']

def itemChars : List Json → List Char
  | [] => []
  | [j] => chars j
  | j :: r => chars j ++ ',' :: itemChars r

def memberChars : List (String × Json) → List Char
  | [] => []
  | [(k, j)] => quoted k ++ ':' :: chars j
  | (k, j) :: r => quoted k ++ ':' :: chars j ++ ',' :: memberChars r

end

def text (j : Json) : String := String.ofList j.chars

end RemoteTable.Json
