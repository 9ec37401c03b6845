import Mathlib
import RemoteTable.Proofs.Number.FloatText

/-!
A decimal of no more than fifteen significant digits comes back unchanged from the double nearest
to it: the double is rounded by less than the digits lie apart, so that its text shows them.
-/

namespace RemoteTable

open Text

namespace Binary

/-- The double nearest to a quotient that is neither very large nor very small. -/
theorem nearest_double (negative : Bool) {n d : Nat} (hn : n ≠ 0) (hd : d ≠ 0)
    (hlow : (2 : ℚ) ^ (-100 : Int) ≤ n / d) (hhigh : (n / d : ℚ) < 2 ^ (100 : Int)) :
    (nearest .double negative n d).IsNormal ∧
      (nearest .double negative n d).isNegative = negative ∧
      (nearest .double negative n d).Takes (n / d) := by
  obtain ⟨a, m, hm, hfull, hupper, -, heq⟩ :=
    nearest_significand (f := .double) negative hn hd
  have hleast : FloatFormat.double.leastScale = -1074 := rfl
  have hfraction : FloatFormat.double.fractionBits = 52 := rfl
  have hinfinity : FloatFormat.double.infinityBits = 2047 * 2 ^ 52 := rfl
  rw [hleast, hfraction] at hfull hupper
  rw [hfraction] at hm heq
  have hlarge : 921 < a := by
    have hlt := hlow.trans_lt hupper
    rw [← pow_succ', ← zpow_natCast, ← zpow_add₀ two_ne_zero,
      zpow_lt_zpow_iff_right₀ one_lt_two] at hlt
    push_cast at hlt
    omega
  obtain ⟨hlong, hbelow⟩ := hfull.resolve_left (by omega)
  have hsmall : a < 1122 := by
    have hlt := hbelow.trans_lt hhigh
    rw [← zpow_natCast, ← zpow_add₀ two_ne_zero, zpow_lt_zpow_iff_right₀ one_lt_two] at hlt
    push_cast at hlt
    omega
  have hfits : a * 2 ^ 52 + m < FloatFormat.double.infinityBits := by
    rw [hinfinity]
    omega
  have hbits : FloatFormat.double.infinityBits < FloatFormat.double.signBit :=
    infinityBits_lt_signBit .double
  rw [Nat.min_eq_left hfits.le] at heq
  have hmagnitude : (nearest .double negative n d).magnitude = a * 2 ^ 52 + m := by
    rw [heq, magnitude_ofParts negative (hfits.trans hbits)]
  have hfinite : (nearest .double negative n d).isFinite = true := by
    rw [isFinite, hmagnitude, decide_eq_true_eq]
    exact hfits
  refine ⟨⟨hfinite, ?_⟩, ?_, takes_nearest (by decide) negative hn hd hfinite⟩
  · have hfield : 1 ≤ (nearest .double negative n d).exponentField := by
      rw [exponentField, hmagnitude, hfraction, Nat.pow_eq]
      omega
    omega
  · rw [heq, isNegative_ofParts negative (hfits.trans hbits)]

end Binary

namespace Decimal

/-- The double that is read for a decimal that is no exact whole number. -/
def toDouble (d : Decimal) : Binary64 :=
  Binary.ofScientific .double (decide (d.mantissa < 0)) d.mantissa.natAbs (-d.scale)

/-- No more than some number of significant digits: the rest are zeros at the end. -/
def HasDigits (most : Nat) (d : Decimal) : Prop :=
  ∃ n k, n < 10 ^ most ∧ d.mantissa.natAbs = n * 10 ^ k

theorem abs_value_eq (d : Decimal) : |d.value| = d.mantissa.natAbs / (10 ^ d.scale : Nat) := by
  rw [eq_div_iff (by positivity), ← d.abs_value_mul]
  push_cast
  rfl

theorem toDouble_of_eq_zero {d : Decimal} (h : d.mantissa = 0) :
    d.toDouble = Binary.ofParts false 0 := by
  simp [toDouble, Binary.ofScientific, h]

theorem toDouble_eq {d : Decimal} (hd : d.mantissa ≠ 0) :
    d.toDouble = Binary.nearest .double (decide (d.mantissa < 0)) d.mantissa.natAbs
      (10 ^ d.scale) := by
  have hlength : (Nat.toDigits 10 d.mantissa.natAbs).length ≤ 29 :=
    (Nat.length_toDigits_le_iff (by decide) (by decide)).2 (d.mantissa_lt.trans (by decide))
  have hscale := d.scale_le
  have hexponent : (-(d.scale : Int)).toNat = 0 := by omega
  unfold toDouble Binary.ofScientific
  simp only
  rw [if_neg (by omega), if_neg (by omega), if_neg (by omega), hexponent, neg_neg, Int.toNat_natCast,
    Nat.pow_eq, Nat.pow_eq, pow_zero, mul_one]

theorem toDouble_normal {d : Decimal} (hd : d.mantissa ≠ 0) : d.toDouble.IsNormal ∧
    d.toDouble.isNegative = decide (d.mantissa < 0) ∧ d.toDouble.Takes |d.value| := by
  have hone : (1 : ℚ) ≤ d.mantissa.natAbs := by exact_mod_cast Int.natAbs_pos.2 hd
  have hlow : (2 : ℚ) ^ (-100 : Int) ≤ d.mantissa.natAbs / (10 ^ d.scale : Nat) := by
    rw [le_div_iff₀ (by positivity)]
    have hscale : ((10 ^ d.scale : Nat) : ℚ) ≤ 10 ^ 28 := by
      exact_mod_cast Nat.pow_le_pow_right (by decide) d.scale_le
    refine (mul_le_mul_of_nonneg_left hscale (by positivity)).trans (le_trans ?_ hone)
    norm_num
  have hhigh : (d.mantissa.natAbs / (10 ^ d.scale : Nat) : ℚ) < 2 ^ (100 : Int) := by
    rw [← abs_value_eq]
    exact d.abs_value_lt.trans (by norm_num [limit])
  rw [toDouble_eq hd, abs_value_eq]
  exact Binary.nearest_double _ (Int.natAbs_ne_zero.2 hd) (by positivity) hlow hhigh

/-- A decimal is the shortest one that is read as the double nearest to it. -/
def IsShortest (d : Decimal) : Prop := (d.toDouble.shortest .toEven).value = |d.value|

theorem abs_value_eq_zpow (d : Decimal) :
    |d.value| = d.mantissa.natAbs * 10 ^ (-d.scale : Int) := by
  rw [abs_value_eq, zpow_neg, zpow_natCast, div_eq_mul_inv]
  push_cast
  rfl

theorem isShortest_of_eq_zero {d : Decimal} (h : d.mantissa = 0) : d.IsShortest := by
  have hdigits : ((Binary.ofParts false 0 : Binary64).shortest .toEven).digits = 0 := by
    decide +kernel
  rw [IsShortest, toDouble_of_eq_zero h, Scientific.value, hdigits, value, h]
  simp

/-- A decimal of no more than fifteen significant digits is the shortest one of its double. -/
theorem HasDigits.isShortest {d : Decimal} (h : d.HasDigits 15) : d.IsShortest := by
  obtain hzero | hd := eq_or_ne d.mantissa 0
  · exact isShortest_of_eq_zero hzero
  · obtain ⟨hnormal, -, htakes⟩ := toDouble_normal hd
    obtain ⟨n, k, hn, hmagnitude⟩ := h
    have hvalue : |d.value| = n * 10 ^ ((k : Int) - d.scale) := by
      rw [abs_value_eq_zpow, hmagnitude, sub_eq_add_neg, zpow_add₀ (by norm_num), zpow_natCast]
      push_cast
      ring
    rw [hvalue] at htakes
    exact (hnormal.shortest_value .toEven htakes hn).trans hvalue.symm

/-- The decimal of digits and an exponent, if they fit one. -/
theorem exists_of_scientific {s : Scientific} (hdigits : s.digits < limit)
    (hexponent : -28 ≤ s.exponent) (hvalue : s.value < limit) (hs : s.digits ≠ 0)
    (negative : Bool) :
    ∃ d : Decimal, |d.value| = s.value ∧ decide (d.mantissa < 0) = negative := by
  obtain ⟨m, k, hm, hk, hmk, hpos⟩ : ∃ m k : Nat, m < limit ∧ k ≤ 28 ∧
      s.value = m / 10 ^ k ∧ m ≠ 0 := by
    obtain hwhole | hplaces := le_or_gt 0 s.exponent
    · have hpower : (10 : ℚ) ^ s.exponent = (10 ^ s.exponent.toNat : Nat) := by
        push_cast
        rw [← zpow_natCast, Int.toNat_of_nonneg hwhole]
      refine ⟨s.digits * 10 ^ s.exponent.toNat, 0, ?_, by decide, ?_, by positivity⟩
      · rw [Scientific.value, hpower] at hvalue
        exact_mod_cast hvalue
      · rw [Scientific.value, hpower]
        push_cast
        ring
    · refine ⟨s.digits, (-s.exponent).toNat, hdigits, by omega, ?_, hs⟩
      rw [Scientific.value, ← zpow_natCast, Int.toNat_of_nonneg (by omega), zpow_neg,
        div_inv_eq_mul]
  have habs : ((if negative then -1 else 1) * (m : Int)).natAbs = m := by
    cases negative <;> simp
  refine ⟨⟨_, k, habs.trans_lt hm, hk⟩, ?_, ?_⟩
  · simp only [abs_value_eq, hmk, habs]
    push_cast
    rfl
  · cases negative
    · simp
    · simp [Nat.pos_of_ne_zero hpos]

/-- What is read of the text of the nearest double is the decimal itself just if it is the shortest
one of that double. -/
theorem read?_toDouble_iff (d : Decimal) :
    (∃ d', read? (d.toDouble.text .document) = some d' ∧ d'.value = d.value) ↔ d.IsShortest := by
  obtain hzero | hd := eq_or_ne d.mantissa 0
  · have hread : read? ((Binary.ofParts false 0 : Binary64).text .document) =
        some ⟨0, 1, by decide, by decide⟩ := by
      decide +kernel
    rw [toDouble_of_eq_zero hzero]
    exact iff_of_true ⟨_, hread, by simp [value, hzero]⟩ (isShortest_of_eq_zero hzero)
  obtain ⟨hnormal, hsign, htakes⟩ := toDouble_normal hd
  have hsignificand : d.toDouble.significand ≠ 0 :=
    (lt_of_lt_of_le (by positivity) hnormal.le_significand).ne'
  obtain ⟨-, htakes', hdigits⟩ := hnormal.shortest_spec .toEven
  have hne := hnormal.shortest_digits_ne_zero .toEven
  constructor
  · rintro ⟨d', hread, hvalue⟩
    have hfits : (d.toDouble.shortest .toEven).digits < limit := hdigits.trans (by decide)
    obtain hlarge | hsmall := le_or_gt (limit : ℚ) (d.toDouble.shortest .toEven).value
    · -- rounded up beyond all decimals, nothing is read
      have hbound : (d.toDouble.shortest .toEven).value < 10 ^ (100 : Int) := by
        have htwice := (hnormal.bounds_of_takes htakes').2
        have hsize := (hnormal.bounds_of_takes htakes).1
        have hlimit := d.abs_value_lt
        norm_num [limit] at hlimit ⊢
        linarith
      have hnone := Binary.read?_text_large hnormal.finite hsignificand hne hfits hlarge hbound
      cases hnone.symm.trans hread
    · rw [abs_value_eq_zpow] at htakes
      obtain hexponent | heq := hnormal.le_exponent_or .toEven htakes
      · -- the shortest decimal has no more places than this one, so it is read as it is
        have hscale := d.scale_le
        obtain ⟨d₀, hvalue₀, hsign₀⟩ := exists_of_scientific hfits (by omega) hsmall hne
          (decide (d.mantissa < 0))
        obtain ⟨d₁, hread₁, hvalue₁⟩ := Binary.read?_text hnormal.finite hsignificand
          (hsign.trans hsign₀.symm) hne hvalue₀.symm
        obtain rfl := Option.some.inj (hread₁.symm.trans hread)
        rw [IsShortest, ← hvalue₀, ← hvalue₁, hvalue]
      · rw [IsShortest, heq, ← abs_value_eq_zpow]
  · intro h
    exact Binary.read?_text hnormal.finite hsignificand hsign hne h

end Decimal

end RemoteTable
