import RemoteTable.Number.Binary
import RemoteTable.Text.Digits

/-!
Reading floating-point numbers from text.
-/

namespace RemoteTable

open Text

/-- An exponent mark with its digits, or nothing; `none` for a mark without digits. -/
def readExponent? (s : List Char) : Option Int :=
  match s with
  | [] => some 0
  | c :: r =>
    if c = 'e' ∨ c = 'E' then
      match r with
      | '-' :: ds => (natural? ds).map (fun n => -(n : Int))
      | '+' :: ds => (natural? ds).map Int.ofNat
      | ds => (natural? ds).map Int.ofNat
    else none

/-- Digits with at most one point among them, and perhaps an exponent. -/
def readUnsigned? (f : FloatFormat) (negative : Bool) (s : List Char) : Option (Binary f) :=
  let (whole, r) := spanDigits s
  let (fraction, r) :=
    match r with
    | '.' :: r => spanDigits r
    | r => ([], r)
  if whole = [] ∧ fraction = [] then none
  else
    (readExponent? r).map fun e =>
      Binary.ofScientific f negative (numeral (whole ++ fraction)) (e - (fraction.length : Nat))

/-- Reads a number, with a sign or not, or the name of an infinity or of no number in any case.
Of a number that is too large an infinity is read. -/
def Binary.read? (f : FloatFormat) (s : List Char) : Option (Binary f) :=
  let (negative, r) :=
    match s with
    | '-' :: r => (true, r)
    | '+' :: r => (false, r)
    | r => (false, r)
  let name := r.map Char.toLower
  if name = "inf".toList ∨ name = "infinity".toList then some (Binary.infinity negative)
  else if name = "nan".toList then some Binary.nan
  else readUnsigned? f negative r

end RemoteTable
