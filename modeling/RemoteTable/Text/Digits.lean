/-!
Decimal digits: writing naturals, with or without a least width, and splitting digits off a text.
-/

namespace RemoteTable.Text

/-- The decimal digits of a natural, the highest first. -/
def digits (n : Nat) : List Char := Nat.toDigits 10 n

/-- The natural that a run of decimal digits stands for. -/
def numeral (ds : List Char) : Nat := Nat.ofDigitChars 10 ds 0

@[simp] theorem numeral_digits (n : Nat) : numeral (digits n) = n :=
  Nat.ofDigitChars_toDigits (by decide) (by decide)

/-- At least `width` digits, filled up with zeros at the front. -/
def padded (width n : Nat) : List Char :=
  List.replicate (width - (digits n).length) '0' ++ digits n

@[simp] theorem numeral_padded (width n : Nat) : numeral (padded width n) = n := by
  have zeros (k : Nat) : numeral (List.replicate k '0' ++ digits n) = n := by
    induction k with
    | zero => simp
    | succ k ih => simpa [numeral, List.replicate_succ, Nat.ofDigitChars_cons] using ih
  exact zeros _

theorem isDigit_of_mem_padded {width n : Nat} {c : Char} (h : c ∈ padded width n) :
    c.isDigit = true := by
  rcases List.mem_append.1 h with h | h
  · rw [List.eq_of_mem_replicate h]; rfl
  · exact Nat.isDigit_of_mem_toDigits (by decide) (by decide) h

/-- An integer in decimal, with a minus sign if it is negative. -/
def integer (i : Int) : List Char :=
  if i < 0 then '-' :: digits i.natAbs else digits i.natAbs

/-- Splits off the digits at the start. -/
def spanDigits (s : List Char) : List Char × List Char :=
  (s.takeWhile Char.isDigit, s.dropWhile Char.isDigit)

/-- Splits off the digits at the start, `most` of them at the most. -/
def takeDigits (most : Nat) (s : List Char) : List Char × List Char :=
  let ds := (s.take most).takeWhile Char.isDigit
  (ds, s.drop ds.length)

/-- The natural written by a text that holds decimal digits and nothing else. -/
def natural? (s : List Char) : Option Nat :=
  if s ≠ [] ∧ s.all Char.isDigit then some (numeral s) else none

end RemoteTable.Text
