import RemoteTable.Text.CharSet

/-!
White space in the sense of Unicode, and trimming by it.
-/

namespace RemoteTable.Text

/-- The bounds of the property White_Space. -/
def blankBounds : List Nat := [
  0x9, 0xe, 0x20, 0x21, 0x85, 0x86, 0xa0, 0xa1, 0x1680, 0x1681, 0x2000, 0x200b, 0x2028, 0x202a,
  0x202f, 0x2030, 0x205f, 0x2060, 0x3000, 0x3001]

/-- A character that is white space. -/
def isBlank (c : Char) : Bool := within blankBounds c.toNat

/-- The text without the white space at its start. -/
def dropBlanks (s : List Char) : List Char := s.dropWhile isBlank

/-- The text without the white space at both ends. -/
def trim (s : String) : String :=
  String.ofList (dropBlanks (dropBlanks s.toList).reverse).reverse

/-- The white space of ASCII: space, tab, line feed, form feed and carriage return. -/
def isAsciiBlank (b : UInt8) : Bool := b == 32 || b == 9 || b == 10 || b == 12 || b == 13

end RemoteTable.Text
