import RemoteTable.Number.Binary

/-!
The decimal with the fewest digits that reads back to a given binary number. The reals that
round to a number form an interval, with its ends exactly if the significand is even. For one,
two, three digits and so on, the two neighbours of the number on the decimal grid are tried: if
any point of a grid lies in the interval, one of these does.
-/

namespace RemoteTable

/-- What happens to a value halfway between two decimals. -/
inductive Tie where
  | toEven
  | awayFromZero
  deriving DecidableEq

/-- The decimal `digits * 10 ^ exponent`. -/
structure Scientific where
  digits : Nat
  exponent : Int
  deriving DecidableEq

namespace Binary

variable {f : FloatFormat}

/-- The decimal with exponent `e` that reads back to `x`, if there is one. -/
def onGrid? (x : Binary f) (tie : Tie) (e : Int) : Option Scientific :=
  let q := x.scale - 2
  let up := Nat.pow 2 q.toNat * Nat.pow 10 (-e).toNat
  let unit := Nat.pow 2 (-q).toNat * Nat.pow 10 e.toNat
  let value := 4 * x.significand * up
  let low := (4 * x.significand - if x.isNarrowBelow then 1 else 2) * up
  let high := (4 * x.significand + 2) * up
  let closed := x.significand % 2 == 0
  let d := value / unit
  let hit (n : Nat) : Bool :=
    (decide (low < n * unit) || (closed && low == n * unit)) &&
      (decide (n * unit < high) || (closed && n * unit == high))
  if hit d && hit (d + 1) then
    match compare (2 * value) ((2 * d + 1) * unit) with
    | .lt => some ⟨d, e⟩
    | .gt => some ⟨d + 1, e⟩
    | .eq => some ⟨if tie = .toEven && d % 2 == 0 then d else d + 1, e⟩
  else if hit d then some ⟨d, e⟩
  else if hit (d + 1) then some ⟨d + 1, e⟩
  else none

/-- A power of ten above `x`: the exponent of the least one, or one more. -/
def decimalOrder (x : Binary f) : Int :=
  let n := x.significand * Nat.pow 2 x.scale.toNat
  let d := Nat.pow 2 (-x.scale).toNat
  let guess := ((n.log2 : Int) - (d.log2 : Int) - 1) * 30103 / 100000
  let above (k : Int) : Bool := decide (n * Nat.pow 10 (-k).toNat < d * Nat.pow 10 k.toNat)
  (((List.range 4).map (fun (i : Nat) => guess + i)).find? above).getD (guess + 4)

/-- The value of a finite `x` in full. -/
def exact (x : Binary f) : Scientific :=
  let down := (-x.scale).toNat
  ⟨x.significand * Nat.pow 2 x.scale.toNat * Nat.pow 5 down, -(down : Int)⟩

/-- The shortest decimal that reads back to the magnitude of a finite `x` other than zero. -/
def shortest (x : Binary f) (tie : Tie) : Scientific :=
  let k := x.decimalOrder
  ((List.range 17).findSome? (fun (i : Nat) => x.onGrid? tie (k - 1 - i))).getD x.exact

end Binary

end RemoteTable
