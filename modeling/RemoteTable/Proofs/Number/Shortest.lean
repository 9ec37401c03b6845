import Mathlib
import RemoteTable.Number.Shortest
import RemoteTable.Proofs.Number.Rounding

/-!
The shortest decimal of a number is one that the number takes, and a decimal of fifteen digits that
a double takes is the shortest one: on the grid of such a decimal the double takes no other.
-/

namespace RemoteTable

def Scientific.value (s : Scientific) : ℚ := s.digits * 10 ^ s.exponent

namespace Binary

variable {f : FloatFormat} {x : Binary f}

/-- The value of a number in quarters of its last place, in which the halves beside it are whole. -/
theorem size_eq_quarters (x : Binary f) :
    x.size = (4 * x.significand : Nat) * 2 ^ (x.scale - 2) := by
  rw [size, zpow_scale]
  push_cast
  ring

theorem takes_size (x : Binary f) : x.Takes x.size := by
  have hunit : (0 : ℚ) < 2 ^ (x.scale - 2) := by positivity
  rw [Takes, below, above, size_eq_quarters]
  generalize (2 : ℚ) ^ (x.scale - 2) = u at *
  constructor
  · obtain hzero | hne := eq_or_ne x.significand 0
    · simp [hzero]
    · have hlt : ((4 * x.significand - if x.isNarrowBelow then 1 else 2 : Nat) : ℚ) <
          (4 * x.significand : Nat) := by
        exact_mod_cast (by split <;> omega :
          (4 * x.significand - if x.isNarrowBelow then 1 else 2) < 4 * x.significand)
      exact .inl (by gcongr)
  · left
    push_cast
    nlinarith

/-- The units of a binary and of a decimal grid in one measure. -/
theorem exists_units (q e : Int) : ∃ c : ℚ, 0 < c ∧
    ((2 ^ q.toNat * 10 ^ (-e).toNat : Nat) : ℚ) = 2 ^ q * c ∧
    ((2 ^ (-q).toNat * 10 ^ e.toNat : Nat) : ℚ) = 10 ^ e * c := by
  have hbinary := zpow_mul_pow_toNat two_pos q
  have hdecimal := zpow_mul_pow_toNat (b := 10) (by norm_num) e
  refine ⟨2 ^ (-q).toNat * 10 ^ (-e).toNat, by positivity, ?_, ?_⟩
  · push_cast at hbinary ⊢
    rw [← hbinary]
    ring
  · push_cast at hdecimal ⊢
    rw [← hdecimal]
    ring

/-- On a decimal grid a number lies between two neighbours, and of these one is found if the number
takes it. -/
theorem onGrid?_cases (x : Binary f) (tie : Tie) (e : Int) :
    ∃ d : Nat, d * (10 : ℚ) ^ e ≤ x.size ∧ x.size < (d + 1 : Nat) * (10 : ℚ) ^ e ∧
      ((∃ n : Nat, x.Takes (n * 10 ^ e) ∧ x.onGrid? tie e = some ⟨n, e⟩) ∨
        ¬ x.Takes (d * 10 ^ e) ∧ ¬ x.Takes ((d + 1 : Nat) * 10 ^ e) ∧
          x.onGrid? tie e = none) := by
  classical
  obtain ⟨c, hc, hup, hunit⟩ := exists_units (x.scale - 2) e
  unfold onGrid?
  simp only [Nat.pow_eq]
  generalize 2 ^ (x.scale - 2).toNat * 10 ^ (-e).toNat = up at *
  generalize 2 ^ (-(x.scale - 2)).toNat * 10 ^ e.toNat = unit at *
  have hlt (k n : Nat) : k * up < n * unit ↔ (k * 2 ^ (x.scale - 2) : ℚ) < n * 10 ^ e := by
    rw [← mul_lt_mul_iff_left₀ hc, mul_assoc, mul_assoc, ← hup, ← hunit]
    exact_mod_cast Iff.rfl
  have hgt (k n : Nat) : n * unit < k * up ↔ (n * 10 ^ e : ℚ) < k * 2 ^ (x.scale - 2) := by
    rw [← mul_lt_mul_iff_left₀ hc, mul_assoc, mul_assoc, ← hup, ← hunit]
    exact_mod_cast Iff.rfl
  have heq (k n : Nat) : k * up = n * unit ↔ (k * 2 ^ (x.scale - 2) : ℚ) = n * 10 ^ e := by
    rw [← mul_left_inj' hc.ne', mul_assoc, mul_assoc, ← hup, ← hunit]
    exact_mod_cast Iff.rfl
  have hhit (n : Nat) :
      ((decide ((4 * x.significand - if x.isNarrowBelow then 1 else 2) * up < n * unit) ||
          (x.significand % 2 == 0 &&
            (4 * x.significand - if x.isNarrowBelow then 1 else 2) * up == n * unit)) &&
        (decide (n * unit < (4 * x.significand + 2) * up) ||
          (x.significand % 2 == 0 && n * unit == (4 * x.significand + 2) * up))) =
      decide (x.Takes (n * 10 ^ e)) := by
    rw [Bool.eq_iff_iff]
    simp only [Bool.and_eq_true, Bool.or_eq_true, decide_eq_true_eq, beq_iff_eq, Takes, Within,
      below, above, hlt, hgt, heq, eq_comm (a := n * unit), eq_comm (a := (n * 10 ^ e : ℚ))]
  have hpos : 0 < unit := by
    have hunit' : (0 : ℚ) < unit := hunit ▸ by positivity
    exact_mod_cast hunit'
  simp only [hhit, Bool.and_eq_true, decide_eq_true_eq]
  refine ⟨4 * x.significand * up / unit, ?_, ?_, ?_⟩
  · rw [size_eq_quarters, ← not_lt, ← hlt, not_lt]
    exact Nat.div_mul_le_self _ _
  · rw [size_eq_quarters, ← hlt]
    exact Nat.lt_mul_of_div_lt (Nat.lt_succ_self _) hpos
  · generalize 4 * x.significand * up / unit = d
    split
    · next h =>
      left
      split
      · exact ⟨d, h.1, rfl⟩
      · exact ⟨d + 1, h.2, rfl⟩
      · split
        · exact ⟨d, h.1, rfl⟩
        · exact ⟨d + 1, h.2, rfl⟩
    · split
      · next h => exact .inl ⟨d, h, rfl⟩
      · next hlow =>
        split
        · next h => exact .inl ⟨d + 1, h, rfl⟩
        · next hhigh => exact .inr ⟨hlow, hhigh, rfl⟩

theorem takes_of_onGrid? {tie : Tie} {e : Int} {s : Scientific} (h : x.onGrid? tie e = some s) :
    s.exponent = e ∧ x.Takes s.value := by
  obtain ⟨d, -, -, ⟨n, htakes, heq⟩ | ⟨-, -, hnone⟩⟩ := onGrid?_cases x tie e
  · obtain rfl := Option.some.inj (heq.symm.trans h)
    exact ⟨rfl, htakes⟩
  · cases hnone.symm.trans h

/-- If a number takes any decimal of a grid, one is found on the grid. -/
theorem not_takes_of_onGrid? {tie : Tie} {e : Int} (h : x.onGrid? tie e = none) (n : Nat) :
    ¬ x.Takes (n * 10 ^ e) := by
  intro htakes
  obtain ⟨d, hlow, hhigh, ⟨m, -, heq⟩ | ⟨hd, hd', -⟩⟩ := onGrid?_cases x tie e
  · cases heq.symm.trans h
  · have hunit : (0 : ℚ) < 10 ^ e := by positivity
    obtain hle | hle : n ≤ d ∨ d + 1 ≤ n := by omega
    · exact hd (htakes.between (takes_size x) (by gcongr) hlow)
    · exact hd' ((takes_size x).between htakes hhigh.le (by gcongr))

/-- A number whose significand has its full length. -/
structure IsNormal (x : Binary f) : Prop where
  finite : x.isFinite = true
  exponentField_ne_zero : x.exponentField ≠ 0

theorem IsNormal.le_significand (h : x.IsNormal) : 2 ^ f.fractionBits ≤ x.significand := by
  rw [significand, if_neg h.exponentField_ne_zero]
  exact Nat.le_add_right _ _

theorem IsNormal.significand_lt (h : x.IsNormal) : x.significand < 2 * 2 ^ f.fractionBits := by
  have hfraction : x.fractionField < 2 ^ f.fractionBits := Nat.mod_lt _ (Nat.two_pow_pos _)
  rw [significand, if_neg h.exponentField_ne_zero, Nat.pow_eq]
  omega

theorem IsNormal.size_lt (h : x.IsNormal) : x.size < 2 * 2 ^ f.fractionBits * 2 ^ x.scale := by
  have hlt : (x.significand : ℚ) < 2 * 2 ^ f.fractionBits := by exact_mod_cast h.significand_lt
  rw [size]
  gcongr

theorem IsNormal.le_size (h : x.IsNormal) : 2 ^ f.fractionBits * 2 ^ x.scale ≤ x.size := by
  have hle : (2 : ℚ) ^ f.fractionBits ≤ x.significand := by exact_mod_cast h.le_significand
  rw [size]
  gcongr

theorem zpow_le_zpow_iff_mul_le {a b : Nat} (ha : 0 < a) (hb : 0 < b) (i j : Int) :
    (a : ℚ) ^ i ≤ (b : ℚ) ^ j ↔
      a ^ i.toNat * b ^ (-j).toNat ≤ b ^ j.toNat * a ^ (-i).toNat := by
  have hpos : (0 : ℚ) < a ^ (-i).toNat * b ^ (-j).toNat := by positivity
  rw [← mul_le_mul_iff_left₀ hpos, ← mul_assoc, zpow_mul_pow_toNat ha, mul_left_comm,
    zpow_mul_pow_toNat hb, mul_comm _ ((b : ℚ) ^ j.toNat)]
  exact_mod_cast Iff.rfl

/-- Over all scales of doubles, a fraction that is nearly the logarithm of two finds a power of ten
from its power of two. -/
theorem orders_checked : ∀ i < 2046, let s : Int := (i : Nat) - 1074
    let g := (s + 51) * 30103 / 100000
    10 ^ g.toNat * 2 ^ (-(s + 52)).toNat ≤ 2 ^ (s + 52).toNat * 10 ^ (-g).toNat ∧
      2 ^ (s + 53).toNat * 10 ^ (-(g + 2)).toNat ≤
        10 ^ (g + 2).toNat * 2 ^ (-(s + 53)).toNat := by
  decide +kernel

theorem le_and_le_of_order {s : Int} (hlow : -1074 ≤ s) (hhigh : s < 972) :
    (10 : ℚ) ^ ((s + 51) * 30103 / 100000) ≤ 2 ^ (s + 52) ∧
      (2 : ℚ) ^ (s + 53) ≤ 10 ^ ((s + 51) * 30103 / 100000 + 2) := by
  have hchecked := orders_checked (s + 1074).toNat (by omega)
  rw [Int.toNat_of_nonneg (by omega), add_sub_cancel_right] at hchecked
  simp only [← zpow_le_zpow_iff_mul_le (a := 10) (b := 2) (by norm_num) (by norm_num),
    ← zpow_le_zpow_iff_mul_le (a := 2) (b := 10) (by norm_num) (by norm_num)] at hchecked
  exact_mod_cast hchecked

/-- The scale of a double. -/
theorem IsNormal.scale_bounds {x : Binary64} (h : x.IsNormal) : -1074 ≤ x.scale ∧ x.scale < 972 := by
  have hfinite : x.magnitude < 2047 * 2 ^ 52 := of_decide_eq_true h.finite
  have hfield : x.exponentField < 2047 := by
    exact Nat.div_lt_of_lt_mul (Nat.mul_comm _ _ ▸ hfinite)
  have hleast : FloatFormat.double.leastScale = -1074 := rfl
  rw [scale, hleast]
  omega

/-- The significand of a double has 53 bits. -/
theorem IsNormal.log2_significand_mul {x : Binary64} (h : x.IsNormal) (k : Nat) :
    (x.significand * 2 ^ k).log2 = 52 + k := by
  have hlow : 2 ^ 52 ≤ x.significand := h.le_significand
  have hhigh : x.significand < 2 * 2 ^ 52 := h.significand_lt
  rw [Nat.log2_eq_iff (Nat.mul_ne_zero (by omega) (by positivity)), pow_succ, pow_add]
  constructor
  · gcongr
  · rw [mul_right_comm]
    gcongr
    omega

/-- The comparison of a number with a power of ten, on naturals. -/
theorem lt_pow_iff (x : Binary f) (k : Int) :
    x.significand * Nat.pow 2 x.scale.toNat * Nat.pow 10 (-k).toNat <
      Nat.pow 2 (-x.scale).toNat * Nat.pow 10 k.toNat ↔ x.size < 10 ^ k := by
  have hpos : (0 : ℚ) < 2 ^ (-x.scale).toNat := by positivity
  have hsize : x.size = (x.significand * 2 ^ x.scale.toNat : ℚ) / 2 ^ (-x.scale).toNat := by
    rw [size, eq_div_iff hpos.ne', mul_assoc]
    exact congrArg _ (zpow_mul_pow_toNat two_pos x.scale)
  rw [← not_le, mul_pow_le_mul_pow_iff (b := 10) (by norm_num), hsize, ← not_le, le_div_iff₀ hpos]
  simp only [Nat.pow_eq]
  push_cast
  rw [mul_comm]

/-- The decimal order of a double is the exponent of the least power of ten above it. -/
theorem IsNormal.decimalOrder_bounds {x : Binary64} (h : x.IsNormal) :
    (10 : ℚ) ^ (x.decimalOrder - 1) ≤ x.size ∧ x.size < 10 ^ x.decimalOrder := by
  have hguess : ((52 + x.scale.toNat : Nat) : Int) - ((-x.scale).toNat : Nat) - 1 =
      x.scale + 51 := by omega
  obtain ⟨hbelow, hbeyond⟩ := le_and_le_of_order h.scale_bounds.1 h.scale_bounds.2
  unfold decimalOrder
  simp only [lt_pow_iff]
  simp only [Nat.pow_eq, h.log2_significand_mul, Nat.log2_two_pow, hguess]
  generalize (x.scale + 51) * 30103 / 100000 = g at *
  have hle : (10 : ℚ) ^ g ≤ x.size := by
    refine hbelow.trans (le_trans (le_of_eq ?_) h.le_size)
    rw [← zpow_natCast, ← zpow_add₀ two_ne_zero, add_comm]
    rfl
  have hlt : x.size < 10 ^ (g + 2) := by
    refine h.size_lt.trans_le (le_trans (le_of_eq ?_) hbeyond)
    rw [← pow_succ', ← zpow_natCast, ← zpow_add₀ two_ne_zero, add_comm]
    rfl
  -- the guess itself is never above the double, and one of the next two is
  have hrange : (List.range 4).map (fun i : Nat => g + (i : Int)) = [g, g + 1, g + 2, g + 3] := by
    simp [List.range_succ]
  rw [hrange, List.find?_cons_of_neg (by simpa using hle)]
  by_cases hone : x.size < 10 ^ (g + 1)
  · rw [List.find?_cons_of_pos (by simpa using hone), Option.getD_some, add_sub_cancel_right]
    exact ⟨hle, hone⟩
  · rw [List.find?_cons_of_neg (by simpa using hone), List.find?_cons_of_pos (by simpa using hlt),
      Option.getD_some, show g + 2 - 1 = g + 1 by ring]
    exact ⟨not_lt.1 hone, hlt⟩

/-- What a number takes is half a unit of its last place away at most. -/
theorem Takes.abs_sub_size_le {v : ℚ} (h : x.Takes v) : |v - x.size| ≤ 2 ^ x.scale / 2 := by
  have hlow := h.low_le
  have hhigh := h.le_high
  rw [below] at hlow
  rw [above] at hhigh
  rw [size_eq_quarters, zpow_scale]
  have hpos : (0 : ℚ) < 2 ^ (x.scale - 2) := by positivity
  generalize (2 : ℚ) ^ (x.scale - 2) = u at *
  have hnarrow : (4 * x.significand : ℚ) ≤
      (4 * x.significand - if x.isNarrowBelow then 1 else 2 : Nat) + 2 := by
    exact_mod_cast (by split <;> omega :
      4 * x.significand ≤ (4 * x.significand - if x.isNarrowBelow then 1 else 2) + 2)
  rw [abs_le]
  push_cast at hhigh ⊢
  constructor
  · nlinarith
  · linarith

/-- What stands before a number in a range are all the numbers below it. -/
theorem mem_of_range_eq_append {n i j : Nat} {l r : List Nat} (h : List.range n = l ++ i :: r)
    (hj : j < i) : j ∈ l := by
  have hsorted := h ▸ List.pairwise_lt_range (n := n)
  have hi : i ∈ List.range n := h ▸ List.mem_append_right l (.head r)
  have hmem : j ∈ List.range n := List.mem_range.2 (hj.trans (List.mem_range.1 hi))
  rw [h, List.mem_append, List.mem_cons] at hmem
  obtain hl | rfl | hr := hmem
  · exact hl
  · exact absurd hj (Nat.lt_irrefl _)
  · have hafter := (List.pairwise_cons.1 (List.pairwise_append.1 hsorted).2.1).1 j hr
    omega

/-- The search for the shortest decimal stops before it has passed a grid on which there is one. -/
theorem shortest_of_takes (tie : Tie) {n : Nat} {e : Int} (htakes : x.Takes (n * 10 ^ e))
    (hlow : x.decimalOrder - 17 ≤ e) (hhigh : e < x.decimalOrder) :
    e ≤ (x.shortest tie).exponent ∧ x.Takes (x.shortest tie).value := by
  unfold shortest
  simp only
  cases hfound : (List.range 17).findSome?
      (fun (i : Nat) => x.onGrid? tie (x.decimalOrder - 1 - i)) with
  | none =>
    have hnone := List.findSome?_eq_none_iff.1 hfound (x.decimalOrder - 1 - e).toNat
      (List.mem_range.2 (by omega))
    rw [Int.toNat_of_nonneg (by omega), sub_sub_cancel] at hnone
    exact absurd htakes (not_takes_of_onGrid? hnone n)
  | some s =>
    obtain ⟨before, i, after, hrange, hsome, hbefore⟩ := List.findSome?_eq_some_iff.1 hfound
    obtain ⟨hexponent, hvalue⟩ := takes_of_onGrid? hsome
    refine ⟨?_, hvalue⟩
    rw [Option.getD_some, hexponent]
    by_contra hpassed
    have htried : (x.decimalOrder - 1 - e).toNat ∈ before :=
      mem_of_range_eq_append hrange (by omega)
    have hnone := hbefore _ htried
    rw [Int.toNat_of_nonneg (by omega), sub_sub_cancel] at hnone
    exact not_takes_of_onGrid? hnone n htakes

/-- Of the decimals on a grid a double takes one only, if that one has no more than fifteen
digits: on a coarser grid than that the places of the double lie closer together. -/
theorem IsNormal.eq_of_takes {x : Binary64} (h : x.IsNormal) {m n : Nat} {e : Int}
    (hm : x.Takes (m * 10 ^ e)) (hn : x.Takes (n * 10 ^ e)) (hdigits : m < 10 ^ 15) : n = m := by
  have hm' := abs_le.1 hm.abs_sub_size_le
  have hn' := abs_le.1 hn.abs_sub_size_le
  have hsize := h.le_size
  have hpos : (0 : ℚ) < 10 ^ e := by positivity
  rw [show FloatFormat.double.fractionBits = 52 from rfl] at hsize
  generalize (2 : ℚ) ^ x.scale = u at *
  generalize (10 : ℚ) ^ e = g at *
  by_contra hne
  have hapart : g ≤ u := by
    have hone : (1 : ℚ) ≤ |(n : ℚ) - m| := by
      have hint : (1 : Int) ≤ |(n : Int) - m| := Int.one_le_abs (by omega)
      exact_mod_cast hint
    calc g = 1 * g := (one_mul g).symm
      _ ≤ |(n : ℚ) - m| * g := by gcongr
      _ = |n * g - m * g| := by rw [← sub_mul, abs_mul, abs_of_pos hpos]
      _ ≤ u := abs_le.2 ⟨by linarith, by linarith⟩
  have hdigits' : (m : ℚ) < 10 ^ 15 := by exact_mod_cast hdigits
  nlinarith

/-- The decimal of a coarser grid on a finer one. -/
theorem mul_zpow_refine (n : Nat) {e g : Int} (h : g ≤ e) :
    (n : ℚ) * 10 ^ e = (n * 10 ^ (e - g).toNat : Nat) * 10 ^ g := by
  have hpow : ((e - g).toNat : Int) = e - g := Int.toNat_of_nonneg (by omega)
  push_cast
  rw [← zpow_natCast, hpow, mul_assoc, ← zpow_add₀ (by norm_num), sub_add_cancel]

/-- What a double takes is more than half and less than twice as much. -/
theorem IsNormal.bounds_of_takes {x : Binary64} (h : x.IsNormal) {v : ℚ} (htakes : x.Takes v) :
    x.size < 2 * v ∧ v < 2 * x.size := by
  have hv := abs_le.1 htakes.abs_sub_size_le
  have hsize := h.le_size
  have hunit : (0 : ℚ) < 2 ^ x.scale := by positivity
  rw [show FloatFormat.double.fractionBits = 52 from rfl] at hsize
  generalize (2 : ℚ) ^ x.scale = u at *
  constructor
  · linarith
  · linarith

/-- A double takes a decimal of no more than fifteen digits only if that is its shortest one. -/
theorem IsNormal.shortest_value {x : Binary64} (h : x.IsNormal) (tie : Tie) {n : Nat} {e : Int}
    (htakes : x.Takes (n * 10 ^ e)) (hdigits : n < 10 ^ 15) :
    (x.shortest tie).value = n * 10 ^ e := by
  obtain ⟨hlow, hhigh⟩ := h.decimalOrder_bounds
  wlog hgrid : e < x.decimalOrder generalizing n e with hfine
  · -- the grids that are tried start below the order, and two digits are enough there
    have hrefine := mul_zpow_refine n (e := e) (g := x.decimalOrder - 1) (by omega)
    rw [hrefine] at htakes ⊢
    refine hfine htakes ?_ (by omega)
    have hfew := (h.bounds_of_takes htakes).2
    rw [← sub_add_cancel x.decimalOrder 1, zpow_add_one₀ (by norm_num)] at hhigh
    have hpos : (0 : ℚ) < 10 ^ (x.decimalOrder - 1) := by positivity
    have hlt : ((n * 10 ^ (e - (x.decimalOrder - 1)).toNat : Nat) : ℚ) < 20 := by nlinarith
    exact lt_trans (by exact_mod_cast hlt) (by norm_num)
  have hnear : x.decimalOrder - 17 ≤ e := by
    by_contra hfar
    have hdigits' : (n : ℚ) < 10 ^ 15 := by exact_mod_cast hdigits
    have hpos : (0 : ℚ) < 10 ^ e := by positivity
    have hsmall := (h.bounds_of_takes htakes).1
    have horder : (10 : ℚ) ^ 17 * 10 ^ e ≤ 10 ^ (x.decimalOrder - 1) := by
      rw [← zpow_natCast, ← zpow_add₀ (by norm_num)]
      exact zpow_le_zpow_right₀ (by norm_num) (by push_cast; omega)
    nlinarith
  obtain ⟨hexponent, hvalue⟩ := shortest_of_takes tie htakes hnear hgrid
  generalize x.shortest tie = s at *
  rw [Scientific.value, mul_zpow_refine _ hexponent] at hvalue ⊢
  rw [h.eq_of_takes htakes hvalue hdigits]

theorem above_le_of_not_takes {v : ℚ} (h : ¬ x.Takes v) (hle : x.size ≤ v) : x.above ≤ v := by
  by_contra hlt
  refine h ⟨?_, .inl (not_le.1 hlt)⟩
  obtain hbelow | ⟨hclosed, heq⟩ := (takes_size x).1
  · exact .inl (hbelow.trans_le hle)
  · exact (heq.trans_le hle).lt_or_eq.imp_right (⟨hclosed, ·⟩)

theorem le_below_of_not_takes {v : ℚ} (h : ¬ x.Takes v) (hle : v ≤ x.size) : v ≤ x.below := by
  by_contra hlt
  refine h ⟨.inl (not_le.1 hlt), ?_⟩
  obtain habove | ⟨hclosed, heq⟩ := (takes_size x).2
  · exact .inl (hle.trans_lt habove)
  · exact (hle.trans_eq heq).lt_or_eq.imp_right (⟨hclosed, ·⟩)

/-- Seventeen digits are enough for every double. -/
theorem IsNormal.exists_takes {x : Binary64} (h : x.IsNormal) :
    ∃ n : Nat, x.Takes (n * 10 ^ (x.decimalOrder - 17)) := by
  obtain ⟨d, hlow, hhigh, ⟨n, htakes, -⟩ | ⟨hd, hd', -⟩⟩ :=
    onGrid?_cases x .toEven (x.decimalOrder - 17)
  · exact ⟨n, htakes⟩
  · exfalso
    have horder : (10 : ℚ) ^ 16 * 10 ^ (x.decimalOrder - 17) ≤ x.size := by
      refine le_trans (le_of_eq ?_) h.decimalOrder_bounds.1
      rw [← zpow_natCast, ← zpow_add₀ (by norm_num)]
      congr 1
      push_cast
      ring
    have hbelow := le_below_of_not_takes hd hlow
    have habove := above_le_of_not_takes hd' hhigh.le
    have hlong := h.le_significand
    have hshort := h.significand_lt
    have hnarrow : x.isNarrowBelow = true → x.significand = 2 ^ 52 := by
      intro hnarrow
      simp only [isNarrowBelow, Bool.and_eq_true, beq_iff_eq] at hnarrow
      rw [significand, if_neg h.exponentField_ne_zero, hnarrow.1]
      rfl
    rw [show FloatFormat.double.fractionBits = 52 from rfl] at hlong hshort
    rw [size_eq_quarters] at horder
    rw [below] at hbelow
    rw [above] at habove
    have hunit : (0 : ℚ) < 2 ^ (x.scale - 2) := by positivity
    generalize (2 : ℚ) ^ (x.scale - 2) = u at *
    generalize (10 : ℚ) ^ (x.decimalOrder - 17) = g at *
    by_cases hn : x.isNarrowBelow = true
    · rw [if_pos hn, hnarrow hn] at hbelow
      rw [hnarrow hn] at habove horder
      push_cast at hbelow habove horder
      norm_num at hbelow habove horder
      linarith
    · rw [if_neg hn, Nat.cast_sub (by omega)] at hbelow
      have hshort' : (x.significand : ℚ) < 2 * 2 ^ 52 := by exact_mod_cast hshort
      push_cast at hbelow habove horder
      nlinarith

/-- The shortest decimal of a double is one that it takes, of seventeen digits or eighteen. -/
theorem IsNormal.shortest_spec {x : Binary64} (h : x.IsNormal) (tie : Tie) :
    x.decimalOrder - 17 ≤ (x.shortest tie).exponent ∧ x.Takes (x.shortest tie).value ∧
      (x.shortest tie).digits < 10 ^ 18 := by
  obtain ⟨n, hn⟩ := h.exists_takes
  obtain ⟨hexponent, htakes⟩ := shortest_of_takes tie hn le_rfl (by omega)
  refine ⟨hexponent, htakes, ?_⟩
  have hvalue := (h.bounds_of_takes htakes).2
  have hsize := h.decimalOrder_bounds.2
  have hunit : (10 : ℚ) ^ (x.decimalOrder - 17) ≤ 10 ^ (x.shortest tie).exponent :=
    zpow_le_zpow_right₀ (by norm_num) hexponent
  have horder : (10 : ℚ) ^ x.decimalOrder = 10 ^ 17 * 10 ^ (x.decimalOrder - 17) := by
    rw [← zpow_natCast, ← zpow_add₀ (by norm_num)]
    congr 1
    push_cast
    ring
  have hpos : (0 : ℚ) < 10 ^ (x.decimalOrder - 17) := by positivity
  rw [Scientific.value] at hvalue
  rw [horder] at hsize
  have hdigits : ((x.shortest tie).digits : ℚ) < 10 ^ 18 := by
    by_contra hmany
    nlinarith
  exact_mod_cast hdigits

theorem IsNormal.size_pos {x : Binary64} (h : x.IsNormal) : 0 < x.size :=
  lt_of_lt_of_le (by positivity) h.le_size

theorem IsNormal.shortest_digits_ne_zero {x : Binary64} (h : x.IsNormal) (tie : Tie) :
    (x.shortest tie).digits ≠ 0 := by
  intro hzero
  have hsize := (h.bounds_of_takes (h.shortest_spec tie).2.1).1
  rw [Scientific.value, hzero] at hsize
  simp only [Nat.cast_zero, zero_mul, mul_zero] at hsize
  exact absurd h.size_pos hsize.not_gt

/-- A decimal that a double takes is its shortest one or has no fewer places than that. -/
theorem IsNormal.le_exponent_or {x : Binary64} (h : x.IsNormal) (tie : Tie) {n : Nat} {e : Int}
    (htakes : x.Takes (n * 10 ^ e)) :
    e ≤ (x.shortest tie).exponent ∨ (x.shortest tie).value = n * 10 ^ e := by
  obtain hfine | hcoarse := lt_or_ge e x.decimalOrder
  · left
    obtain hnear | hfar := le_or_gt (x.decimalOrder - 17) e
    · exact (shortest_of_takes tie htakes hnear hfine).1
    · exact hfar.le.trans (h.shortest_spec tie).1
  · right
    refine h.shortest_value tie htakes ?_
    have hvalue := (h.bounds_of_takes htakes).2
    have hsize := h.decimalOrder_bounds.2
    have hpos : (0 : ℚ) < 10 ^ e := by positivity
    have hunit : (10 : ℚ) ^ x.decimalOrder ≤ 10 ^ e := zpow_le_zpow_right₀ (by norm_num) hcoarse
    have hfew : (n : ℚ) < 2 := by nlinarith
    exact lt_trans (by exact_mod_cast hfew) (by norm_num)

end Binary

end RemoteTable
