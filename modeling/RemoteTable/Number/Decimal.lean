import RemoteTable.Text.Digits

/-!
Exact decimals: a mantissa of at most 96 bits and up to 28 places after the point. The number of
places is part of the value, so `1.5` and `1.50` differ.
-/

namespace RemoteTable

/-- The first magnitude that does not fit 96 bits. -/
def Decimal.limit : Nat := 79228162514264337593543950336

/-- The decimal `mantissa / 10 ^ scale`. -/
structure Decimal where
  mantissa : Int
  scale : Nat
  mantissa_lt : mantissa.natAbs < Decimal.limit
  scale_le : scale ≤ 28
  deriving DecidableEq

namespace Decimal

open Text

def make? (mantissa : Int) (scale : Nat) : Option Decimal :=
  if h : mantissa.natAbs < limit ∧ scale ≤ 28 then some ⟨mantissa, scale, h.1, h.2⟩ else none

/-- All the places are written, and at least one digit before the point. -/
def text (d : Decimal) : List Char :=
  let ds := padded (d.scale + 1) d.mantissa.natAbs
  let whole := ds.take (ds.length - d.scale)
  (if d.mantissa < 0 then ['-'] else []) ++ whole ++
    if d.scale = 0 then [] else '.' :: ds.drop (ds.length - d.scale)

/-- Raises a magnitude by one if the first digit that it loses is five or more. A magnitude that
this takes out of range gives up a place. -/
def roundAt (m scale digit : Nat) : Option (Nat × Nat) :=
  if digit < 5 then some (m, scale)
  else if m + 1 < limit then some (m + 1, scale)
  else if scale = 0 then none
  else some ((m + 5) / 10, scale - 1)

/-- What may follow the first digit that is not kept. -/
def unkept (r : List Char) : Bool := r.all fun x => x.isDigit || x == '_'

/-- Reads digits with at most one point among them into a magnitude and a scale. Underscores after
the first digit are skipped. The first place that does not fit settles the rounding; the places
after it must be well formed and carry no weight. -/
def scan (point started : Bool) (m scale : Nat) : List Char → Option (Nat × Nat)
  | [] => if started then some (m, scale) else none
  | c :: r =>
    if c.isDigit then
      let d := numeral [c]
      let next := m * 10 + d
      if point && (decide (28 ≤ scale) || decide (limit ≤ next)) then
        if unkept r then roundAt m scale d else none
      else if limit ≤ next then none
      else scan point true next (if point then scale + 1 else scale) r
    else if c = '.' ∧ !point then scan true started m scale r
    else if c = '_' ∧ started then scan point started m scale r
    else none

/-- Reads a decimal without an exponent. -/
def readPlain? (s : List Char) : Option Decimal :=
  let (negative, r) :=
    match s with
    | '-' :: r => (true, r)
    | '+' :: r => (false, r)
    | r => (false, r)
  do
    let (m, scale) ← scan false false 0 0 r
    make? (if negative then -(m : Int) else m) scale

/-- The quotient by `10 ^ n`, a half rounded away from zero. -/
def dropPlaces (m : Int) (n : Nat) : Int :=
  let q := (m.natAbs + Nat.pow 10 n / 2) / Nat.pow 10 n
  if m < 0 then -(q : Int) else q

/-- The decimal times `10 ^ -n`. -/
def lower (d : Decimal) (n : Nat) : Option Decimal :=
  if 28 < n then none
  else if d.scale + n ≤ 28 then make? d.mantissa (d.scale + n)
  else make? (dropPlaces d.mantissa (d.scale + n - 28)) 28

/-- The decimal times `10 ^ n`, without places that this leaves empty. -/
def raise (d : Decimal) (n : Nat) : Option Decimal :=
  if n ≤ d.scale then make? d.mantissa (d.scale - n)
  else if 28 < n then none
  else make? (d.mantissa * (Nat.pow 10 (n - d.scale) : Nat)) 0

def readExponent? (s : List Char) : Option (Bool × Nat) :=
  let (negative, r) :=
    match s with
    | '-' :: r => (true, r)
    | r => (false, r)
  let r :=
    match r with
    | '+' :: r => r
    | r => r
  do
    let n ← natural? r
    if n < UInt32.size then some (negative, n) else none

/-- Reads a decimal with an exponent. -/
def readScaled? (s : List Char) : Option Decimal :=
  let isMark (c : Char) : Bool := c == 'e' || c == 'E'
  match s.dropWhile (fun c => !isMark c) with
  | [] => none
  | _ :: e => do
    let d ← readPlain? (s.takeWhile (fun c => !isMark c))
    let (negative, n) ← readExponent? e
    if negative then d.lower n else d.raise n

def read? (s : List Char) : Option Decimal :=
  match readPlain? s with
  | some d => some d
  | none => readScaled? s

end Decimal

end RemoteTable
