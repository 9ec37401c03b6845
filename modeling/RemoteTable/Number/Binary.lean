/-!
Binary floating-point numbers by their bits, and correct rounding of a quotient of naturals:
to the nearest number, of two equally near ones to the one with an even significand.
-/

namespace RemoteTable

/-- A binary interchange format: the widths of its fraction and of its exponent field. -/
structure FloatFormat where
  fractionBits : Nat
  exponentBits : Nat

namespace FloatFormat

def single : FloatFormat := ⟨23, 8⟩

def double : FloatFormat := ⟨52, 11⟩

def width (f : FloatFormat) : Nat := 1 + f.exponentBits + f.fractionBits

/-- The exponent of the last place of the smallest positive number. -/
def leastScale (f : FloatFormat) : Int :=
  2 - (Nat.pow 2 (f.exponentBits - 1) : Nat) - (f.fractionBits : Nat)

/-- The bit of the sign by itself. -/
def signBit (f : FloatFormat) : Nat := Nat.pow 2 (f.exponentBits + f.fractionBits)

/-- The bits of positive infinity. -/
def infinityBits (f : FloatFormat) : Nat :=
  (Nat.pow 2 f.exponentBits - 1) * Nat.pow 2 f.fractionBits

end FloatFormat

/-- A number of a binary format. -/
structure Binary (f : FloatFormat) where
  bits : BitVec f.width
  deriving DecidableEq

abbrev Binary32 := Binary .single

abbrev Binary64 := Binary .double

namespace Binary

variable {f : FloatFormat}

/-- The bits without the sign. -/
def magnitude (x : Binary f) : Nat := x.bits.toNat % f.signBit

def isNegative (x : Binary f) : Bool := x.bits.toNat / f.signBit == 1

def isNaN (x : Binary f) : Bool := decide (f.infinityBits < x.magnitude)

def isInfinite (x : Binary f) : Bool := x.magnitude == f.infinityBits

def isFinite (x : Binary f) : Bool := decide (x.magnitude < f.infinityBits)

def exponentField (x : Binary f) : Nat := x.magnitude / Nat.pow 2 f.fractionBits

def fractionField (x : Binary f) : Nat := x.magnitude % Nat.pow 2 f.fractionBits

/-- A finite number is its significand times two to its scale. -/
def significand (x : Binary f) : Nat :=
  if x.exponentField = 0 then x.fractionField else Nat.pow 2 f.fractionBits + x.fractionField

def scale (x : Binary f) : Int := f.leastScale + (x.exponentField - 1 : Nat)

/-- Whether the number below is only half as far away as the number above. -/
def isNarrowBelow (x : Binary f) : Bool := x.fractionField == 0 && decide (1 < x.exponentField)

def ofParts (negative : Bool) (magnitude : Nat) : Binary f :=
  ⟨BitVec.ofNat f.width ((if negative then f.signBit else 0) + magnitude)⟩

def infinity (negative : Bool) : Binary f := ofParts negative f.infinityBits

def nan : Binary f := ofParts false (f.infinityBits + Nat.pow 2 (f.fractionBits - 1))

end Binary

/-- The integer nearest to a quotient; a half goes to the even neighbour. -/
def roundQuotient (n d : Nat) : Nat :=
  let q := n / d
  let r := n % d
  if 2 * r < d then q
  else if d < 2 * r then q + 1
  else q + q % 2

namespace Binary

/-- The number of the format nearest to plus or minus `n / d`; what is too large is infinite. -/
def nearest (f : FloatFormat) (negative : Bool) (n d : Nat) : Binary f :=
  if n = 0 then ofParts negative 0
  else
    let guess : Int := (n.log2 : Int) - (d.log2 : Int)
    let order : Int :=
      if d * Nat.pow 2 guess.toNat ≤ n * Nat.pow 2 (-guess).toNat then guess else guess - 1
    let q := max (order - (f.fractionBits : Nat)) f.leastScale
    let m := roundQuotient (n * Nat.pow 2 (-q).toNat) (d * Nat.pow 2 q.toNat)
    let magnitude := (q - f.leastScale).toNat * Nat.pow 2 f.fractionBits + m
    ofParts negative (min magnitude f.infinityBits)

/-- The number nearest to plus or minus `digits * 10 ^ exponent`. -/
def ofScientific (f : FloatFormat) (negative : Bool) (digits : Nat) (exponent : Int) : Binary f :=
  if digits = 0 then ofParts negative 0
  else
    let order := ((Nat.toDigits 10 digits).length : Int) + exponent
    if order < -400 then ofParts negative 0
    else if 400 < order then infinity negative
    else nearest f negative (digits * Nat.pow 10 exponent.toNat) (Nat.pow 10 (-exponent).toNat)

/-- The number of another format nearest to `x`. -/
def convert {f : FloatFormat} (g : FloatFormat) (x : Binary f) : Binary g :=
  if x.isNaN then nan
  else if x.isInfinite then infinity x.isNegative
  else nearest g x.isNegative (x.significand * Nat.pow 2 x.scale.toNat) (Nat.pow 2 (-x.scale).toNat)

/-- The double nearest to an integer. -/
def ofInt (i : Int) : Binary64 := nearest .double (decide (i < 0)) i.natAbs 1

end Binary

end RemoteTable
