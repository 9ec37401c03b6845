import RemoteTable.Json.Basic
import RemoteTable.Number.FloatReader
import RemoteTable.Text.Hex

/-!
Reading documents. Nesting goes down to 127 levels; of two members with one name the later counts;
a number that is no exact integer is rounded to a double, and refused if it is too large for one.
-/

namespace RemoteTable.Json

open Text

def isSpace (c : Char) : Bool := c == ' ' || c == '\t' || c == '\n' || c == '\r'

def skipSpace (s : List Char) : List Char := s.dropWhile isSpace

/-- The sixteen-bit number of four hexadecimal digits. -/
def hexUnit? (a b c d : Char) : Option Nat := do
  let a ← hexDigit? a
  let b ← hexDigit? b
  let c ← hexDigit? c
  let d ← hexDigit? d
  some (((a.val * 16 + b.val) * 16 + c.val) * 16 + d.val)

def isHighSurrogate (n : Nat) : Bool := decide (0xd800 ≤ n ∧ n < 0xdc00)

def isLowSurrogate (n : Nat) : Bool := decide (0xdc00 ≤ n ∧ n < 0xe000)

/-- The character of a one-letter escape. -/
def shortEscape? (c : Char) : Option Char :=
  if c = '"' ∨ c = '\\' ∨ c = '/' then some c
  else if c = 'b' then some (Char.ofNat 8)
  else if c = 'f' then some (Char.ofNat 12)
  else if c = 'n' then some '\n'
  else if c = 'r' then some '\r'
  else if c = 't' then some '\t'
  else none

/-- Reads to the closing quote: the characters, and what follows the quote. -/
def readQuoted? : List Char → Option (List Char × List Char)
  | [] => none
  | '"' :: r => some ([], r)
  | '\\' :: 'u' :: a :: b :: c :: d :: r => do
    let n ← hexUnit? a b c d
    if isHighSurrogate n then
      match r with
      | '\\' :: 'u' :: e :: f :: g :: h :: r => do
        let low ← hexUnit? e f g h
        if isLowSurrogate low then
          let (cs, rest) ← readQuoted? r
          some (Char.ofNat (0x10000 + (n - 0xd800) * 1024 + (low - 0xdc00)) :: cs, rest)
        else none
      | _ => none
    else if isLowSurrogate n then none
    else
      let (cs, rest) ← readQuoted? r
      some (Char.ofNat n :: cs, rest)
  | '\\' :: c :: r => do
    let c ← shortEscape? c
    let (cs, rest) ← readQuoted? r
    some (c :: cs, rest)
  | c :: r =>
    if c.toNat < 32 then none
    else do
      let (cs, rest) ← readQuoted? r
      some (c :: cs, rest)

/-- Splits off an exponent mark with its digits; nothing is split off if there is no mark. -/
def splitExponent? (s : List Char) : Option (Option Int × List Char) :=
  match s with
  | [] => some (none, [])
  | c :: r =>
    if c = 'e' ∨ c = 'E' then
      let (sign, r) : Int × List Char :=
        match r with
        | '-' :: r => (-1, r)
        | '+' :: r => (1, r)
        | r => (1, r)
      let (ds, r) := spanDigits r
      if ds = [] then none else some (some (sign * (numeral ds : Int)), r)
    else some (none, s)

/-- Splits off a point with its digits; nothing is split off if there is no point. -/
def splitFraction? (s : List Char) : Option (Option (List Char) × List Char) :=
  match s with
  | '.' :: r =>
    let (ds, r) := spanDigits r
    if ds = [] then none else some (some ds, r)
  | r => some (none, r)

/-- The whole number of that size if it is exact and has no sign beside a zero. -/
def exactInt? (negative : Bool) (n : Nat) : Option Json :=
  if negative then
    if n ≠ 0 ∧ Int64.minValue.toInt ≤ -(n : Int) then some (.int (-(n : Int))) else none
  else if n < UInt64.size then some (.int n) else none

/-- Reads the number after its sign. Whatever is no whole number of 64 bits is read as the nearest
double. That is what an exact reader of doubles does; one that only does its best may be off by a
unit in the last place if the digits come to more than 2^53 or the exponent to more than 22. -/
def readNumber? (negative : Bool) (s : List Char) : Option (Json × List Char) := do
  let (whole, r) := spanDigits s
  if whole = [] ∨ (whole.head? = some '0' ∧ 1 < whole.length) then none
  else
    let (fraction, r) ← splitFraction? r
    let (exponent, r) ← splitExponent? r
    let float : Option Json :=
      let x := Binary.ofScientific .double negative (numeral (whole ++ fraction.getD []))
        (exponent.getD 0 - ((fraction.getD []).length : Nat))
      if x.isFinite then some (.float x) else none
    let j ←
      if fraction.isNone && exponent.isNone then
        (exactInt? negative (numeral whole)).orElse (fun _ => float)
      else float
    some (j, r)

mutual

/-- Reads one document, of at most `depth` levels, at the start of a text. -/
def readValue? : Nat → Nat → List Char → Option (Json × List Char)
  | 0, _, _ => none
  | fuel + 1, depth, s =>
    match skipSpace s with
    | 'n' :: 'u' :: 'l' :: 'l' :: r => some (.null, r)
    | 't' :: 'r' :: 'u' :: 'e' :: r => some (.bool true, r)
    | 'f' :: 'a' :: 'l' :: 's' :: 'e' :: r => some (.bool false, r)
    | '"' :: r => do
      let (cs, r) ← readQuoted? r
      some (.string (String.ofList cs), r)
    | '[' :: r =>
      if depth = 0 then none
      else
        match skipSpace r with
        | ']' :: r => some (.array [], r)
        | r => do
          let (items, r) ← readItems? fuel (depth - 1) r
          some (.array items, r)
    | '\x7b' :: r =>
      if depth = 0 then none
      else
        match skipSpace r with
        | '\x7d' :: r => some (.object [], r)
        | r => do
          let (members, r) ← readMembers? fuel (depth - 1) r
          some (ofMembers members, r)
    | '-' :: r => readNumber? true r
    | r => readNumber? false r

/-- Reads items up to the bracket that closes them. -/
def readItems? : Nat → Nat → List Char → Option (List Json × List Char)
  | 0, _, _ => none
  | fuel + 1, depth, s => do
    let (j, r) ← readValue? fuel depth s
    match skipSpace r with
    | ',' :: r => do
      let (items, r) ← readItems? fuel depth r
      some (j :: items, r)
    | ']' :: r => some ([j], r)
    | _ => none

/-- Reads members up to the brace that closes them. -/
def readMembers? : Nat → Nat → List Char → Option (List (String × Json) × List Char)
  | 0, _, _ => none
  | fuel + 1, depth, s => do
    match skipSpace s with
    | '"' :: r => do
      let (name, r) ← readQuoted? r
      match skipSpace r with
      | ':' :: r => do
        let (j, r) ← readValue? fuel depth r
        match skipSpace r with
        | ',' :: r => do
          let (members, r) ← readMembers? fuel depth r
          some ((String.ofList name, j) :: members, r)
        | '\x7d' :: r => some ([(String.ofList name, j)], r)
        | _ => none
      | _ => none
    | _ => none

end

/-- The deepest nesting that is read. -/
def maxDepth : Nat := 127

/-- The document that a text holds. Every step but one of two takes a character off the text. -/
def read? (s : String) : Option Json :=
  let cs := s.toList
  match readValue? (2 * cs.length + 2) maxDepth cs with
  | some (j, r) => if skipSpace r = [] then some j else none
  | none => none

/-- The document that bytes hold as text. -/
def ofBytes? (b : ByteArray) : Option Json := String.fromUTF8? b >>= read?

end RemoteTable.Json
