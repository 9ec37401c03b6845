import RemoteTable.Number.Shortest
import RemoteTable.Text.Digits

/-!
The texts of floating-point numbers: one choice of digits, and a record of the decisions that
tell one way of writing them from another.
-/

namespace RemoteTable

/-- How floating-point numbers are written. -/
structure FloatStyle where
  /-- Which decimal exponents of the first digit are written without an exponent mark. -/
  positional : Int → Bool
  /-- Whether a whole number without an exponent mark ends in a point and a zero. -/
  wholeMark : Bool
  /-- Whether a positive exponent has a plus sign. -/
  plusSign : Bool
  tie : Tie
  nan : String
  infinity : String

/-- Positional at any size, and whole numbers without a point. -/
def FloatStyle.plain : FloatStyle := ⟨fun _ => true, false, false, .awayFromZero, "NaN", "Infinity"⟩

/-- Positional from `0.00001` up to sixteen digits, and always recognisable as a float. -/
def FloatStyle.document : FloatStyle :=
  ⟨fun e => decide (-5 ≤ e ∧ e < 16), true, true, .toEven, "null", "null"⟩

/-- Positional from `0.0001` up to sixteen digits, and always recognisable as a float. -/
def FloatStyle.display : FloatStyle :=
  ⟨fun e => decide (-5 < e ∧ e < 16), true, false, .awayFromZero, "NaN", "inf"⟩

namespace FloatStyle

open Text

/-- Lays digits out around the point; `e` is the exponent of the first of them. -/
def layPositional (wholeMark : Bool) (ds : List Char) (e : Int) : List Char :=
  if e < 0 then '0' :: '.' :: (List.replicate (-e - 1).toNat '0' ++ ds)
  else
    let whole := e.toNat + 1
    let front := ds.take whole ++ List.replicate (whole - ds.length) '0'
    let fraction := ds.drop whole
    if fraction = [] then front ++ (if wholeMark then ['.', '0'] else [])
    else front ++ '.' :: fraction

def layScientific (plusSign : Bool) (ds : List Char) (e : Int) : List Char :=
  let point := if ds.length ≤ 1 then [] else ['.']
  let sign := if e < 0 then ['-'] else if plusSign then ['+'] else []
  ds.take 1 ++ point ++ ds.drop 1 ++ 'e' :: (sign ++ digits e.natAbs)

/-- The digits of a decimal without zeros at the end, and the exponent of the first of them. -/
def significant (s : Scientific) : List Char × Int :=
  let ds := digits s.digits
  let kept := (ds.reverse.dropWhile (· == '0')).reverse
  (if kept = [] then ['0'] else kept, s.exponent + (ds.length : Int) - 1)

end FloatStyle

namespace Binary

variable {f : FloatFormat}

/-- The text of a number in a given style. -/
def text (style : FloatStyle) (x : Binary f) : List Char :=
  if x.isNaN then style.nan.toList
  else
    (if x.isNegative then ['-'] else []) ++
      if x.isInfinite then style.infinity.toList
      else
        let (ds, e) :=
          if x.significand = 0 then (['0'], 0) else FloatStyle.significant (x.shortest style.tie)
        if style.positional e then FloatStyle.layPositional style.wholeMark ds e
        else FloatStyle.layScientific style.plusSign ds e

/-- The double with the same shortest digits: a tenth stays a tenth. -/
def toDouble (x : Binary32) : Binary64 :=
  if x.isNaN || x.isInfinite || x.significand == 0 then x.convert .double
  else
    let s := x.shortest .awayFromZero
    ofScientific .double x.isNegative s.digits s.exponent

end Binary

end RemoteTable
