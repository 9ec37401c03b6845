import RemoteTable.Text.Hex

/-!
The two ways of escaping text in addresses: percent signs with hexadecimal digits, for the parts of
an address, and the form encoding, for the pairs of a query.
-/

namespace RemoteTable.Url

open Text

/-- The bytes of a text. -/
def bytesOf (s : List Char) : List UInt8 := s.flatMap String.utf8EncodeChar

/-- A byte as a percent sign and two digits. -/
def escapeByte (b : UInt8) : List Char :=
  let (high, low) := nibbles b
  ['%', hexCharUpper high, hexCharUpper low]

/-- Whether a character is escaped in every part of an address: controls, and all beyond ASCII. -/
def isControl (c : Char) : Bool := decide (c.toNat < 32 ∨ 126 < c.toNat)

def isFragmentEscaped (c : Char) : Bool :=
  isControl c || [' ', '"', '<', '>', Char.ofNat 96].contains c

def isPathEscaped (c : Char) : Bool :=
  isFragmentEscaped c || ['#', '?', '\x7b', '\x7d'].contains c

/-- What is escaped in a segment that is added as a whole. -/
def isSegmentEscaped (special : Bool) (c : Char) : Bool :=
  isPathEscaped c || ['/', '%'].contains c || (special && c == '\\')

def isUserinfoEscaped (c : Char) : Bool :=
  isPathEscaped c || ['/', ':', ';', '=', '@', '[', '\\', ']', '^', '|'].contains c

def isQueryEscaped (special : Bool) (c : Char) : Bool :=
  isControl c || [' ', '"', '#', '<', '>'].contains c || (special && c == '\'')

/-- Escapes the characters of a class. -/
def escape (escaped : Char → Bool) (s : List Char) : List Char :=
  s.flatMap (fun c => if escaped c then (String.utf8EncodeChar c).flatMap escapeByte else [c])

/-- The bytes of a text in which a percent sign with two digits stands for one. -/
def unescape : List Char → List UInt8
  | [] => []
  | '%' :: a :: b :: r =>
    match hexDigit? a, hexDigit? b with
    | some high, some low => UInt8.ofNat (high.val * 16 + low.val) :: unescape r
    | _, _ => String.utf8EncodeChar '%' ++ unescape (a :: b :: r)
  | c :: r => String.utf8EncodeChar c ++ unescape r

/-- Characters that the form encoding leaves as they are. -/
def isFormPlain (b : UInt8) : Bool :=
  let n := b.toNat
  decide ((48 ≤ n ∧ n < 58) ∨ (65 ≤ n ∧ n < 91) ∨ (97 ≤ n ∧ n < 123)) || [42, 45, 46, 95].contains n

def formByte (b : UInt8) : List Char :=
  if b = 32 then ['+'] else if isFormPlain b then [Char.ofNat b.toNat] else escapeByte b

/-- A text in the form encoding. -/
def formEncode (s : String) : List Char := (bytesOf s.toList).flatMap formByte

/-- A pair in the form encoding. -/
def formPair (p : String × String) : List Char := formEncode p.1 ++ '=' :: formEncode p.2

/-- Pairs in the form encoding with ampersands between them. -/
def formPairs : List (String × String) → List Char
  | [] => []
  | [p] => formPair p
  | p :: r => formPair p ++ '&' :: formPairs r

end RemoteTable.Url
