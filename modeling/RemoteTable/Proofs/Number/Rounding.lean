import Mathlib
import RemoteTable.Number.Binary

/-!
What the number nearest to a quotient says about the quotient: it lies between the halves on both
sides of that number, and on one of them only if the significand is even.
-/

namespace RemoteTable

/-- Between two ends, which count themselves only under a condition. -/
def Within (closed : Prop) (low v high : ℚ) : Prop :=
  (low < v ∨ closed ∧ low = v) ∧ (v < high ∨ closed ∧ v = high)

namespace Within

variable {closed : Prop} {low high u v w k : ℚ}

theorem low_le (h : Within closed low v high) : low ≤ v := by
  obtain ⟨hlt | ⟨-, heq⟩, -⟩ := h
  · exact hlt.le
  · exact heq.le

theorem le_high (h : Within closed low v high) : v ≤ high := by
  obtain ⟨-, hlt | ⟨-, heq⟩⟩ := h
  · exact hlt.le
  · exact heq.le

/-- What lies between two values within the ends is within them. -/
theorem between (hu : Within closed low u high) (hw : Within closed low w high) (huv : u ≤ v)
    (hvw : v ≤ w) : Within closed low v high := by
  constructor
  · obtain ⟨hlt | ⟨hclosed, heq⟩, -⟩ := hu
    · exact .inl (hlt.trans_le huv)
    · exact (heq.trans_le huv).lt_or_eq.imp_right (⟨hclosed, ·⟩)
  · obtain ⟨-, hlt | ⟨hclosed, heq⟩⟩ := hw
    · exact .inl (hvw.trans_lt hlt)
    · exact (hvw.trans_eq heq).lt_or_eq.imp_right (⟨hclosed, ·⟩)

/-- Ends that lie farther apart hold no less. -/
theorem widen {low' high' : ℚ} (h : Within closed low v high) (hlow : low' ≤ low)
    (hhigh : high ≤ high') : Within closed low' v high' := by
  obtain ⟨hl, hh⟩ := h
  constructor
  · obtain hlt | ⟨hclosed, rfl⟩ := hl
    · exact .inl (hlow.trans_lt hlt)
    · exact hlow.lt_or_eq.imp_right (⟨hclosed, ·⟩)
  · obtain hlt | ⟨hclosed, rfl⟩ := hh
    · exact .inl (hlt.trans_le hhigh)
    · exact hhigh.lt_or_eq.imp_right (⟨hclosed, ·⟩)

theorem mul_iff (hk : 0 < k) :
    Within closed (low * k) (v * k) (high * k) ↔ Within closed low v high := by
  simp only [Within, mul_lt_mul_iff_left₀ hk, mul_left_inj' hk.ne']

end Within

/-- The integer that a quotient is rounded to is half a unit away at most, and an even one if it is
as much as that. -/
theorem roundQuotient_within (n : Nat) {d : Nat} (hd : 0 < d) :
    Within (roundQuotient n d % 2 = 0) (roundQuotient n d - 1 / 2) ((n : ℚ) / d)
      (roundQuotient n d + 1 / 2) := by
  have hd' : (0 : ℚ) < d := by exact_mod_cast hd
  have hsplit : (n : ℚ) / d = (n / d : Nat) + (n % d : Nat) / d := by
    rw [div_eq_iff hd'.ne', add_mul, div_mul_cancel₀ _ hd'.ne']
    exact_mod_cast (Nat.div_add_mod' n d).symm
  have hlow : (0 : ℚ) ≤ (n % d : Nat) / d := by positivity
  have hhigh : ((n % d : Nat) : ℚ) / d < 1 := by
    rw [div_lt_one hd']
    exact_mod_cast Nat.mod_lt n hd
  rw [hsplit]
  unfold roundQuotient
  simp only
  split
  · next hlt =>
    have hhalf : ((n % d : Nat) : ℚ) / d < 1 / 2 := by
      rw [div_lt_iff₀ hd']
      have : (2 * (n % d : Nat) : ℚ) < d := by exact_mod_cast hlt
      linarith
    exact ⟨.inl (by linarith), .inl (by linarith)⟩
  · split
    · next hgt =>
      have hhalf : 1 / 2 < ((n % d : Nat) : ℚ) / d := by
        rw [lt_div_iff₀ hd']
        have : (d : ℚ) < 2 * (n % d : Nat) := by exact_mod_cast hgt
        linarith
      push_cast
      exact ⟨.inl (by linarith), .inl (by linarith)⟩
    · next hle hge =>
      have hhalf : ((n % d : Nat) : ℚ) / d = 1 / 2 := by
        rw [div_eq_iff hd'.ne']
        have : (2 * (n % d : Nat) : ℚ) = d := by exact_mod_cast (by omega : 2 * (n % d) = d)
        linarith
      have heven : (n / d + n / d % 2) % 2 = 0 := by omega
      rw [hhalf]
      obtain hmod | hmod := Nat.mod_two_eq_zero_or_one (n / d)
      · rw [hmod]
        push_cast
        exact ⟨.inl (by linarith), .inr ⟨by omega, by linarith⟩⟩
      · rw [hmod]
        push_cast
        exact ⟨.inr ⟨by omega, by linarith⟩, .inl (by linarith)⟩

section

variable {b : Nat}

/-- An integral power is a quotient of natural ones. -/
theorem zpow_mul_pow_toNat (hb : 0 < b) (e : Int) : (b : ℚ) ^ e * b ^ (-e).toNat = b ^ e.toNat := by
  have hb' : (b : ℚ) ≠ 0 := by exact_mod_cast hb.ne'
  rw [← zpow_natCast, ← zpow_natCast, ← zpow_add₀ hb']
  congr 1
  omega

theorem mul_pow_le_mul_pow_iff (hb : 0 < b) (e : Int) (k n : Nat) :
    k * Nat.pow b e.toNat ≤ n * Nat.pow b (-e).toNat ↔ (k : ℚ) * (b : ℚ) ^ e ≤ n := by
  have hpos : (0 : ℚ) < (b : ℚ) ^ (-e).toNat := by positivity
  rw [← mul_le_mul_iff_left₀ hpos, mul_assoc, zpow_mul_pow_toNat hb]
  exact_mod_cast Iff.rfl

end

/-- The quotient of two naturals lies in the range that their lengths in bits say. -/
theorem log2_quotient {n d : Nat} (hn : n ≠ 0) (hd : d ≠ 0) :
    (2 : ℚ) ^ ((n.log2 : Int) - d.log2 - 1) < n / d ∧
      (n / d : ℚ) < 2 ^ ((n.log2 : Int) - d.log2 + 1) := by
  have hnlow : (2 : ℚ) ^ n.log2 ≤ n := by exact_mod_cast Nat.log2_self_le hn
  have hdlow : (2 : ℚ) ^ d.log2 ≤ d := by exact_mod_cast Nat.log2_self_le hd
  have hnhigh : (n : ℚ) < 2 ^ (n.log2 + 1) := by exact_mod_cast Nat.lt_log2_self
  have hdhigh : (d : ℚ) < 2 ^ (d.log2 + 1) := by exact_mod_cast Nat.lt_log2_self
  have hd' : (0 : ℚ) < d := by exact_mod_cast Nat.pos_of_ne_zero hd
  have hpow : (0 : ℚ) < 2 ^ ((n.log2 : Int) - d.log2 - 1) := by positivity
  have hpow' : (0 : ℚ) < 2 ^ ((n.log2 : Int) - d.log2 + 1) := by positivity
  constructor
  · rw [lt_div_iff₀ hd']
    calc (2 : ℚ) ^ ((n.log2 : Int) - d.log2 - 1) * d
        < 2 ^ ((n.log2 : Int) - d.log2 - 1) * 2 ^ (d.log2 + 1) := by gcongr
      _ = 2 ^ n.log2 := by
        rw [← zpow_natCast, ← zpow_natCast, ← zpow_add₀ two_ne_zero]
        congr 1
        push_cast
        ring
      _ ≤ n := hnlow
  · rw [div_lt_iff₀ hd']
    calc (n : ℚ) < 2 ^ (n.log2 + 1) := hnhigh
      _ = 2 ^ ((n.log2 : Int) - d.log2 + 1) * 2 ^ d.log2 := by
        rw [← zpow_natCast, ← zpow_natCast, ← zpow_add₀ two_ne_zero]
        congr 1
        push_cast
        ring
      _ ≤ 2 ^ ((n.log2 : Int) - d.log2 + 1) * d := by gcongr

namespace Binary

variable {f : FloatFormat}

theorem infinityBits_lt_signBit (f : FloatFormat) : f.infinityBits < f.signBit := by
  have hfraction : 0 < 2 ^ f.fractionBits := by positivity
  have hexponent : 0 < 2 ^ f.exponentBits := by positivity
  simp only [FloatFormat.infinityBits, FloatFormat.signBit, Nat.pow_eq, pow_add]
  exact Nat.mul_lt_mul_of_pos_right (by omega) hfraction

theorem toNat_ofParts (negative : Bool) {k : Nat} (h : k < f.signBit) :
    (ofParts negative k : Binary f).bits.toNat = (if negative then f.signBit else 0) + k := by
  have hwidth : 2 ^ f.width = 2 * f.signBit := by
    simp only [FloatFormat.width, FloatFormat.signBit, Nat.pow_eq]
    ring
  have hsum : (if negative then f.signBit else 0) + k < 2 ^ f.width := by
    split <;> omega
  rw [ofParts, BitVec.toNat_ofNat, Nat.mod_eq_of_lt hsum]

theorem magnitude_ofParts (negative : Bool) {k : Nat} (h : k < f.signBit) :
    (ofParts negative k : Binary f).magnitude = k := by
  rw [magnitude, toNat_ofParts negative h]
  split
  · rw [Nat.add_mod_left, Nat.mod_eq_of_lt h]
  · rw [Nat.zero_add, Nat.mod_eq_of_lt h]

theorem isNegative_ofParts (negative : Bool) {k : Nat} (h : k < f.signBit) :
    (ofParts negative k : Binary f).isNegative = negative := by
  rw [isNegative, toNat_ofParts negative h]
  cases negative
  · simp [Nat.div_eq_of_lt h]
  · simp only [if_true, beq_iff_eq]
    exact Nat.div_eq_of_lt_le (by omega) (by omega)

/-- The parts of a number whose bits are an exponent and a significand added up. A significand that
is one bit too long carries over into the exponent. -/
theorem parts_of_magnitude {x : Binary f} {a m : Nat}
    (hx : x.magnitude = a * 2 ^ f.fractionBits + m) (hm : m ≤ 2 * 2 ^ f.fractionBits)
    (ha : a = 0 ∨ 2 ^ f.fractionBits ≤ m) :
    x.significand = m ∧ x.scale = f.leastScale + a ∧
        (x.isNarrowBelow = true → m = 2 ^ f.fractionBits ∧ a ≠ 0) ∨
      m = 2 * 2 ^ f.fractionBits ∧ x.significand = 2 ^ f.fractionBits ∧
        x.scale = f.leastScale + a + 1 ∧ x.isNarrowBelow = true := by
  have hexponent : x.exponentField = a + m / 2 ^ f.fractionBits := by
    rw [exponentField, hx, Nat.pow_eq, Nat.mul_comm, Nat.mul_add_div (by positivity)]
  have hfraction : x.fractionField = m % 2 ^ f.fractionBits := by
    rw [fractionField, hx, Nat.pow_eq, Nat.mul_comm, Nat.mul_add_mod]
  have hpos : 0 < 2 ^ f.fractionBits := by positivity
  simp only [significand, scale, isNarrowBelow, hexponent, hfraction, Nat.pow_eq]
  generalize 2 ^ f.fractionBits = k at *
  obtain hlt | ⟨hge, hlt⟩ | rfl : m < k ∨ (k ≤ m ∧ m < 2 * k) ∨ m = 2 * k := by omega
  · obtain rfl : a = 0 := by omega
    left
    simp [Nat.div_eq_of_lt hlt, Nat.mod_eq_of_lt hlt]
  · have hone : m / k = 1 := Nat.div_eq_of_lt_le (by omega) (by omega)
    have hrest : m % k = m - k := by rw [Nat.mod_eq_sub_mod hge, Nat.mod_eq_of_lt (by omega)]
    left
    rw [hone, hrest, if_neg (by omega)]
    refine ⟨by omega, by simp, fun h => ?_⟩
    simp only [Bool.and_eq_true, beq_iff_eq, decide_eq_true_eq] at h
    omega
  · right
    rw [Nat.mul_div_cancel _ hpos, Nat.mul_mod_left, if_neg (by omega)]
    refine ⟨rfl, rfl, ?_, by simp⟩
    have hexponent : a + 2 - 1 = a + 1 := rfl
    rw [hexponent]
    push_cast
    ring

/-- The value of a finite number, its sign apart. -/
def size (x : Binary f) : ℚ := x.significand * 2 ^ x.scale

/-- Halfway to the number below. -/
def below (x : Binary f) : ℚ :=
  (4 * x.significand - if x.isNarrowBelow then 1 else 2 : Nat) * 2 ^ (x.scale - 2)

/-- Halfway to the number above. -/
def above (x : Binary f) : ℚ := (4 * x.significand + 2 : Nat) * 2 ^ (x.scale - 2)

/-- The values that are rounded to a number. -/
def Takes (x : Binary f) (v : ℚ) : Prop := Within (x.significand % 2 = 0) x.below v x.above

theorem zpow_scale (x : Binary f) : (2 : ℚ) ^ x.scale = 4 * 2 ^ (x.scale - 2) := by
  rw [← sub_add_cancel x.scale 2, zpow_add₀ two_ne_zero, sub_add_cancel]
  norm_num
  ring

/-- The order of a quotient, and the number nearest to it put together from its leading bits. -/
theorem nearest_eq (negative : Bool) {n d : Nat} (hn : n ≠ 0) (hd : d ≠ 0) :
    ∃ order q : Int, (2 : ℚ) ^ order ≤ n / d ∧ (n / d : ℚ) < 2 ^ (order + 1) ∧
      q = max (order - f.fractionBits) f.leastScale ∧
      nearest f negative n d = ofParts negative (min
        ((q - f.leastScale).toNat * 2 ^ f.fractionBits +
          roundQuotient (n * 2 ^ (-q).toNat) (d * 2 ^ q.toNat)) f.infinityBits) := by
  have hd' : (0 : ℚ) < d := by exact_mod_cast Nat.pos_of_ne_zero hd
  obtain ⟨hlow, hhigh⟩ := log2_quotient hn hd
  have hguess := mul_pow_le_mul_pow_iff two_pos ((n.log2 : Int) - d.log2) d n
  rw [Nat.cast_ofNat, mul_comm (d : ℚ), ← le_div_iff₀ hd'] at hguess
  unfold nearest
  rw [if_neg hn]
  simp only [hguess]
  split
  · next hle => exact ⟨_, _, hle, hhigh, rfl, rfl⟩
  · next hgt =>
    refine ⟨_, _, hlow.le, ?_, rfl, rfl⟩
    rw [sub_add_cancel]
    exact not_le.1 hgt

/-- The nearest number in units of its last place: the significand, not yet carried over, is the
quotient rounded to an integer, and has its full length unless the exponent is the least one. -/
theorem nearest_significand (negative : Bool) {n d : Nat} (hn : n ≠ 0) (hd : d ≠ 0) :
    ∃ a m : Nat, m ≤ 2 * 2 ^ f.fractionBits ∧
      (a = 0 ∨ 2 ^ f.fractionBits ≤ m ∧
        (2 : ℚ) ^ f.fractionBits * 2 ^ (f.leastScale + a) ≤ n / d) ∧
      (n / d : ℚ) < 2 * 2 ^ f.fractionBits * 2 ^ (f.leastScale + a) ∧
      Within (m % 2 = 0) ((m - 1 / 2) * 2 ^ (f.leastScale + a)) (n / d)
        ((m + 1 / 2) * 2 ^ (f.leastScale + a)) ∧
      nearest f negative n d =
        ofParts negative (min (a * 2 ^ f.fractionBits + m) f.infinityBits) := by
  obtain ⟨order, q, hlow, hhigh, hq, heq⟩ := nearest_eq (f := f) negative hn hd
  have hscale : f.leastScale + ((q - f.leastScale).toNat : Int) = q := by omega
  have hunit : (0 : ℚ) < 2 ^ q := by positivity
  have hquotient : ((n * 2 ^ (-q).toNat : Nat) : ℚ) / (d * 2 ^ q.toNat : Nat) = n / d / 2 ^ q := by
    have hpow := zpow_mul_pow_toNat two_pos q
    have hd' : (d : ℚ) ≠ 0 := by exact_mod_cast hd
    push_cast at hpow ⊢
    rw [← hpow]
    field_simp
  have hround := roundQuotient_within (n * 2 ^ (-q).toNat) (d := d * 2 ^ q.toNat) (by positivity)
  rw [hquotient] at hround
  generalize roundQuotient _ _ = m at heq hround
  generalize (n / d : ℚ) = v at *
  have hupper : v < 2 * 2 ^ f.fractionBits * 2 ^ q := by
    refine hhigh.trans_le ?_
    rw [← pow_succ', ← zpow_natCast, ← zpow_add₀ two_ne_zero]
    exact zpow_le_zpow_right₀ one_le_two (by push_cast; omega)
  have hlower : q = f.leastScale ∨ 2 ^ f.fractionBits * 2 ^ q ≤ v := by
    obtain hleast | hgrown : q = f.leastScale ∨ q = order - f.fractionBits := by omega
    · exact .inl hleast
    · refine .inr (le_trans (le_of_eq ?_) hlow)
      rw [← zpow_natCast, ← zpow_add₀ two_ne_zero, hgrown]
      congr 1
      omega
  refine ⟨(q - f.leastScale).toNat, m, ?_, ?_, by rwa [hscale], ?_, heq⟩
  · have hm : (m : ℚ) < 2 * 2 ^ f.fractionBits + 1 := by
      have hle := hround.low_le
      have hlt := (div_lt_iff₀ hunit).2 hupper
      linarith
    exact Nat.lt_add_one_iff.1 (by exact_mod_cast hm)
  · refine hlower.imp (by omega) fun hle => ?_
    rw [hscale]
    refine ⟨?_, hle⟩
    have hm : (2 : ℚ) ^ f.fractionBits < m + 1 := by
      have hle' := hround.le_high
      have hge := (le_div_iff₀ hunit).2 hle
      linarith
    exact Nat.lt_add_one_iff.1 (by exact_mod_cast hm)
  · rw [← Within.mul_iff hunit, div_mul_cancel₀ _ hunit.ne'] at hround
    rwa [hscale]

/-- A number takes what is rounded to its significand. If the number below is only half as far away
as the one above, this holds of what is no smaller than the number itself. -/
theorem Takes.of_rounded {x : Binary f} {v : ℚ} (hpos : 0 < v)
    (h : Within (x.significand % 2 = 0) ((x.significand - 1 / 2) * 2 ^ x.scale) v
      ((x.significand + 1 / 2) * 2 ^ x.scale))
    (hnarrow : x.isNarrowBelow = true → x.significand ≠ 0 ∧ x.size ≤ v) : x.Takes v := by
  rw [size] at hnarrow
  rw [zpow_scale] at h hnarrow
  rw [Takes, below, above]
  have hunit : (0 : ℚ) < 2 ^ (x.scale - 2) := by positivity
  generalize (2 : ℚ) ^ (x.scale - 2) = u at *
  have habove : ((4 * x.significand + 2 : Nat) * u : ℚ) = (x.significand + 1 / 2) * (4 * u) := by
    push_cast
    ring
  rw [habove]
  split
  · next hn =>
    obtain ⟨hne, hle⟩ := hnarrow hn
    refine ⟨.inl ?_, h.2⟩
    rw [Nat.cast_sub (by omega)]
    push_cast
    linarith
  · obtain hzero | hne := eq_or_ne x.significand 0
    · exact ⟨.inl (by simpa [hzero] using hpos), h.2⟩
    · refine h.widen (le_of_eq ?_) le_rfl
      rw [Nat.cast_sub (by omega)]
      push_cast
      ring

/-- A number whose last digit is even takes what lies between it and the half below. -/
theorem Takes.of_below {x : Binary f} {v : ℚ} (heven : x.significand % 2 = 0)
    (hlow : x.below ≤ v) (hhigh : v ≤ x.size) : x.Takes v := by
  have hunit : (0 : ℚ) < 2 ^ (x.scale - 2) := by positivity
  refine ⟨hlow.lt_or_eq.imp_right (⟨heven, ·⟩), .inl (hhigh.trans_lt ?_)⟩
  rw [above, size, zpow_scale]
  push_cast
  linarith

/-- A number takes every value that it is the nearest one to. -/
theorem takes_nearest (hf : f.fractionBits ≠ 0) (negative : Bool) {n d : Nat} (hn : n ≠ 0)
    (hd : d ≠ 0) (hfinite : (nearest f negative n d).isFinite = true) :
    (nearest f negative n d).Takes (n / d) := by
  obtain ⟨a, m, hm, hfull, hupper, hround, heq⟩ := nearest_significand (f := f) negative hn hd
  have hpos : (0 : ℚ) < n / d := by
    have hn' : (0 : ℚ) < n := by exact_mod_cast Nat.pos_of_ne_zero hn
    have hd' : (0 : ℚ) < d := by exact_mod_cast Nat.pos_of_ne_zero hd
    exact div_pos hn' hd'
  generalize (n / d : ℚ) = v at *
  have hlt := infinityBits_lt_signBit f
  have hmagnitude : (nearest f negative n d).magnitude = a * 2 ^ f.fractionBits + m := by
    rw [isFinite, heq, magnitude_ofParts negative (by omega), decide_eq_true_eq] at hfinite
    rw [heq, magnitude_ofParts negative (by omega)]
    omega
  generalize nearest f negative n d = x at *
  have hlong := Nat.one_le_two_pow (n := f.fractionBits)
  obtain ⟨rfl, hscale, hnarrow⟩ | ⟨rfl, hs, hscale, hnarrow⟩ :=
    parts_of_magnitude hmagnitude hm (hfull.imp_right And.left)
  · refine .of_rounded hpos (by rwa [hscale]) fun h => ?_
    obtain ⟨hs, ha⟩ := hnarrow h
    obtain ha' | ⟨-, hle⟩ := hfull
    · exact absurd ha' ha
    · refine ⟨by omega, ?_⟩
      rw [size, hs, hscale]
      exact_mod_cast hle
  · -- the significand has carried over: the value lies below a power of two
    have heven : 2 ^ f.fractionBits % 2 = 0 := by
      obtain ⟨k, hk⟩ := Nat.exists_eq_succ_of_ne_zero hf
      rw [hk, pow_succ, Nat.mul_mod_left]
    have hdouble : (2 : ℚ) ^ x.scale = 2 * 2 ^ (f.leastScale + a) := by
      rw [hscale, zpow_add_one₀ two_ne_zero, mul_comm]
    refine .of_below (hs ▸ heven) ?_ ?_
    · rw [below, hs, hnarrow, if_pos rfl, Nat.cast_sub (by omega)]
      refine le_trans (le_of_eq ?_) hround.low_le
      rw [zpow_scale] at hdouble
      push_cast
      linear_combination (2 ^ f.fractionBits - 1 / 4) * hdouble
    · rw [size, hs, hdouble]
      refine hupper.le.trans (le_of_eq ?_)
      push_cast
      ring

end Binary

end RemoteTable
