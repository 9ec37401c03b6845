import Mathlib
import RemoteTable.Number.FloatText
import RemoteTable.Proofs.Number.Decimal
import RemoteTable.Proofs.Number.Shortest

/-!
The text of a double holds the digits of its shortest decimal, laid out around a point or in front
of an exponent. Decimals read both forms, and read the same value.
-/

namespace RemoteTable

open Text

namespace FloatStyle

/-- The digits that a decimal is written with, and their place. -/
structure Layout (ds : List Char) (e : Int) (v : ℚ) : Prop where
  isDigits : IsDigits ds
  ne_nil : ds ≠ []
  /-- There is no zero at the end. -/
  mod_ten_ne_zero : numeral ds % 10 ≠ 0
  value_eq : v = numeral ds * 10 ^ (e + 1 - ds.length)
  /-- The first digit has the exponent. -/
  le_value : 10 ^ e ≤ v
  value_lt : v < 10 ^ (e + 1)

theorem exists_layout {s : Scientific} (hs : s.digits ≠ 0) :
    ∃ ds e, significant s = (ds, e) ∧ Layout ds e s.value ∧ numeral ds ≤ s.digits := by
  obtain ⟨kept, k, hkept, hdigits, hmod⟩ := exists_digits_eq hs
  have hne : kept ≠ [] := by
    rintro rfl
    exact hmod rfl
  have hlength : (digits s.digits).length = kept.length + k := by
    rw [hdigits, List.length_append, List.length_replicate]
  have hvalue : s.digits = 10 ^ k * numeral kept := by
    rw [← numeral_append_zeros, ← hdigits, numeral_digits]
  have hpos : 0 < (digits s.digits).length := List.length_pos_iff.2 (digits_ne_nil _)
  obtain ⟨hlow, hhigh⟩ := length_digits_bounds hs
  have hunit : (0 : ℚ) < 10 ^ s.exponent := by positivity
  refine ⟨kept, s.exponent + (digits s.digits).length - 1, by simp [significant, hkept, hne], ?_,
    hvalue ▸ Nat.le_mul_of_pos_left _ (by positivity)⟩
  refine ⟨fun c hc => isDigits_digits s.digits c (hdigits ▸ List.mem_append_left _ hc), hne, hmod,
    ?_, ?_, ?_⟩
  · have hexponent : s.exponent + (digits s.digits).length - 1 + 1 - kept.length =
        k + s.exponent := by
      rw [hlength]
      push_cast
      ring
    rw [hexponent, Scientific.value, hvalue, zpow_add₀ (by norm_num), zpow_natCast]
    push_cast
    ring
  · have hexponent : s.exponent + (digits s.digits).length - 1 =
        ((digits s.digits).length - 1 : Nat) + s.exponent := by omega
    rw [Scientific.value, hexponent, zpow_add₀ (by norm_num), zpow_natCast]
    gcongr
    exact_mod_cast hlow
  · rw [Scientific.value, sub_add_cancel, add_comm, zpow_add₀ (by norm_num), zpow_natCast]
    gcongr
    exact_mod_cast hhigh

/-- Laid out around the point, the digits stand for the same value, with all the places that they
need and one at least. -/
theorem Layout.exists_positional {ds : List Char} {e : Int} {v : ℚ} (h : Layout ds e v) :
    ∃ whole places, layPositional true ds e = whole ++ '.' :: places ∧ IsDigits whole ∧
      IsDigits places ∧ whole ≠ [] ∧ (places.length : Int) = max (ds.length - 1 - e) 1 ∧
      (numeral (whole ++ places) : ℚ) = v * 10 ^ places.length := by
  have hpos : 0 < ds.length := List.length_pos_iff.2 h.ne_nil
  have hscaled (k : Nat) : v * 10 ^ k = numeral ds * 10 ^ (e + 1 - ds.length + k) := by
    rw [h.value_eq, zpow_add₀ (by norm_num), zpow_natCast, mul_assoc]
  unfold layPositional
  split
  · -- zeros stand between the point and the digits
    next hneg =>
    have hlength : (List.replicate (-e - 1).toNat '0' ++ ds).length = (-e - 1).toNat + ds.length := by
      rw [List.length_append, List.length_replicate]
    refine ⟨['0'], List.replicate (-e - 1).toNat '0' ++ ds, rfl, isDigits_replicate 1, ?_,
      List.cons_ne_nil _ _, ?_, ?_⟩
    · exact List.forall_mem_append.2 ⟨isDigits_replicate _, h.isDigits⟩
    · rw [hlength]
      omega
    · have hexponent : e + 1 - ds.length + ((-e - 1).toNat + ds.length : Nat) = 0 := by omega
      rw [hscaled, hlength, hexponent, zpow_zero, mul_one, ← List.replicate_one,
        numeral_zeros_append, numeral_zeros_append]
  · next hnonneg =>
    simp only [if_true]
    split
    · next hwhole =>
      have hshort : ds.length ≤ e.toNat + 1 := List.drop_eq_nil_iff.1 hwhole
      have hfront : (ds.take (e.toNat + 1) ++ List.replicate (e.toNat + 1 - ds.length) '0') =
          ds ++ List.replicate (e.toNat + 1 - ds.length) '0' := by
        rw [List.take_of_length_le hshort]
      refine ⟨_, ['0'], rfl, ?_, isDigits_replicate 1, ?_, ?_, ?_⟩
      · rw [hfront]
        exact List.forall_mem_append.2 ⟨h.isDigits, isDigits_replicate _⟩
      · rw [hfront]
        exact List.append_ne_nil_of_left_ne_nil h.ne_nil _
      · rw [List.length_singleton]
        omega
      · have hexponent : e + 1 - ds.length + (1 : Nat) = (e.toNat + 1 - ds.length + 1 : Nat) := by
          omega
        rw [hfront, List.length_singleton, hscaled, hexponent, zpow_natCast, List.append_assoc,
          ← List.replicate_one, List.replicate_append_replicate, numeral_append_zeros]
        push_cast
        ring
    · next hfraction =>
      have hlong : e.toNat + 1 < ds.length := not_le.1 fun h => hfraction (List.drop_of_length_le h)
      have hfront : ds.take (e.toNat + 1) ++ List.replicate (e.toNat + 1 - ds.length) '0' =
          ds.take (e.toNat + 1) := by
        rw [Nat.sub_eq_zero_of_le hlong.le, List.replicate_zero, List.append_nil]
      have hlength : (ds.drop (e.toNat + 1)).length = ds.length - (e.toNat + 1) := List.length_drop
      rw [hfront]
      refine ⟨_, _, rfl, fun c hc => h.isDigits c (List.mem_of_mem_take hc),
        fun c hc => h.isDigits c (List.mem_of_mem_drop hc), ?_, ?_, ?_⟩
      · exact List.ne_nil_of_length_pos (by rw [List.length_take]; omega)
      · rw [hlength]
        omega
      · have hexponent : e + 1 - ds.length + (ds.length - (e.toNat + 1) : Nat) = 0 := by omega
        rw [List.take_append_drop, hlength, hscaled, hexponent, zpow_zero, mul_one]

variable {ds : List Char} {e : Int} {d : Decimal}

/-- The digits of a decimal need no more places than it has. -/
theorem Layout.places_le (h : Layout ds e |d.value|) : (ds.length : Int) - 1 - e ≤ d.scale := by
  by_contra hlt
  obtain ⟨k, hk⟩ :=
    Int.eq_ofNat_of_zero_le (show 0 ≤ (ds.length : Int) - 1 - e - d.scale - 1 by omega)
  have hvalue := d.abs_value_mul
  rw [h.value_eq] at hvalue
  have hten : numeral ds = 10 * (10 ^ k * d.mantissa.natAbs) := by
    have hone : (10 : ℚ) ^ (e + 1 - ds.length) * 10 ^ (k + 1 + d.scale) = 1 := by
      rw [← zpow_natCast, ← zpow_add₀ (by norm_num)]
      convert zpow_zero (10 : ℚ) using 2
      push_cast
      omega
    have hq : (numeral ds : ℚ) = 10 * (10 ^ k * d.mantissa.natAbs) := by
      rw [← hvalue]
      linear_combination -(numeral ds : ℚ) * hone
    exact_mod_cast hq
  exact h.mod_ten_ne_zero (by rw [hten, Nat.mul_mod_right])

theorem Layout.readPlain?_positional (h : Layout ds e |d.value|) (hlow : -5 ≤ e) (hhigh : e < 16) :
    ∃ d', Decimal.readPlain? ((if d.mantissa < 0 then ['-'] else []) ++ layPositional true ds e) =
      some d' ∧ d'.value = d.value := by
  obtain ⟨whole, places, htext, hwhole, hplaces, hne, hlength, hvalue⟩ := h.exists_positional
  have hscale := d.scale_le
  have hmost := h.places_le
  have hpos : 0 < ds.length := List.length_pos_iff.2 h.ne_nil
  have hfits : numeral (whole ++ places) < Decimal.limit := by
    obtain hfew | hone : places.length ≤ d.scale ∨ places.length = 1 := by omega
    · have hle := d.abs_value_mul_le hfew
      rw [← hvalue] at hle
      exact lt_of_le_of_lt (by exact_mod_cast hle) d.mantissa_lt
    · have hpower : (10 : ℚ) ^ (e + 1) ≤ 10 ^ (16 : Int) :=
        zpow_le_zpow_right₀ (by norm_num) (by omega)
      have hlt : (numeral (whole ++ places) : ℚ) < 10 ^ 17 := by
        rw [hvalue, hone]
        norm_num at hpower
        linarith [h.value_lt]
      exact lt_trans (by exact_mod_cast hlt) (by decide : 10 ^ 17 < Decimal.limit)
  obtain ⟨d', hwritten, hscale', hvalue'⟩ :=
    Decimal.exists_written_of hwhole hplaces hne hfits (by omega) hvalue
  have hsign : d.mantissa < 0 ↔ d'.mantissa < 0 := by
    rw [← d.value_neg_iff, ← d'.value_neg_iff, hvalue']
  have hpoint : d'.scale ≠ 0 := by omega
  have hread := hwritten.readPlain?_eq
  rw [if_neg hpoint] at hread
  exact ⟨d', by simpa only [htext, hsign] using hread, hvalue'⟩

/-- Digits around a point behind the first. -/
def leading (ds : List Char) : List Char :=
  ds.take 1 ++ (if ds.length ≤ 1 then [] else ['.']) ++ ds.drop 1

theorem Layout.mul_eq_numeral {v : ℚ} (h : Layout ds e v) :
    v * 10 ^ ((ds.length : Int) - 1 - e) = numeral ds := by
  rw [h.value_eq, mul_assoc, ← zpow_add₀ (by norm_num)]
  ring_nf
  simp

theorem Layout.length_le {v : ℚ} (h : Layout ds e v) (hfits : numeral ds < Decimal.limit) :
    ds.length - 1 ≤ 28 := by
  have hpos : 0 < ds.length := List.length_pos_iff.2 h.ne_nil
  have hlong : (10 : ℚ) ^ (ds.length - 1) ≤ numeral ds := by
    have hexponent : ((ds.length - 1 : Nat) : Int) = e + ((ds.length : Int) - 1 - e) := by omega
    rw [← h.mul_eq_numeral, ← zpow_natCast, hexponent, zpow_add₀ (by norm_num)]
    gcongr
    exact h.le_value
  have hlong' : 10 ^ (ds.length - 1) ≤ numeral ds := by exact_mod_cast hlong
  have hlimit : 10 ^ (ds.length - 1) < 10 ^ 29 := (hlong'.trans_lt hfits).trans (by decide)
  exact Nat.lt_succ_iff.1 ((Nat.pow_lt_pow_iff_right (by decide)).1 hlimit)

theorem Layout.numeral_lt (h : Layout ds e |d.value|) : numeral ds < Decimal.limit := by
  have hmost := h.places_le
  have hle : (numeral ds : ℚ) ≤ d.mantissa.natAbs := by
    rw [← h.mul_eq_numeral, ← d.abs_value_mul, ← zpow_natCast]
    gcongr
    norm_num
  exact lt_of_le_of_lt (by exact_mod_cast hle) d.mantissa_lt

/-- The digits around a point behind the first are read as a decimal between one and ten. -/
theorem Layout.readPlain?_leading {v : ℚ} (h : Layout ds e |v|)
    (hfits : numeral ds < Decimal.limit) :
    ∃ d', Decimal.readPlain? ((if v < 0 then ['-'] else []) ++ leading ds) = some d' ∧
      d'.scale = ds.length - 1 ∧ d'.value * 10 ^ e = v := by
  have hpos : 0 < ds.length := List.length_pos_iff.2 h.ne_nil
  have hone : ds.take 1 ≠ [] := List.ne_nil_of_length_pos (by rw [List.length_take]; omega)
  have hvalue : (numeral (ds.take 1 ++ ds.drop 1) : ℚ) =
      |v * 10 ^ (-e)| * 10 ^ (ds.drop 1).length := by
    have hexponent : (ds.length : Int) - 1 - e = -e + (ds.length - 1 : Nat) := by omega
    rw [List.take_append_drop, List.length_drop, ← h.mul_eq_numeral, hexponent,
      zpow_add₀ (by norm_num), zpow_natCast, abs_mul,
      abs_of_pos (by positivity : (0 : ℚ) < 10 ^ (-e)), mul_assoc]
  obtain ⟨d', hwritten, hscale, hvalue'⟩ := Decimal.exists_written_of
    (fun c hc => h.isDigits c (List.mem_of_mem_take hc))
    (fun c hc => h.isDigits c (List.mem_of_mem_drop hc)) hone
    (by rwa [List.take_append_drop]) (by rw [List.length_drop]; exact h.length_le hfits) hvalue
  have hsign : d'.mantissa < 0 ↔ v < 0 := by
    rw [← d'.value_neg_iff, hvalue']
    exact Rat.mul_neg_iff_of_pos_right (by positivity)
  have hpoint : d'.scale = 0 ↔ ds.length ≤ 1 := by
    rw [hscale, List.length_drop]
    omega
  refine ⟨d', ?_, by rw [hscale, List.length_drop], ?_⟩
  · have hread := hwritten.readPlain?_eq
    simp only [hsign, hpoint] at hread
    rw [← hread, leading, List.append_assoc]
    by_cases hshort : ds.length ≤ 1
    · rw [if_pos hshort, if_pos hshort, List.drop_of_length_le hshort, List.append_nil]
    · rw [if_neg hshort, if_neg hshort]
      rfl
  · rw [hvalue', mul_assoc, ← zpow_add₀ (by norm_num), neg_add_cancel, zpow_zero, mul_one]

/-- What is read in front of an exponent is lowered or raised by the exponent. -/
theorem read?_layScientific (hds : IsDigits ds) (he : e.natAbs < UInt32.size) (negative : Prop)
    [Decidable negative] :
    Decimal.read? ((if negative then ['-'] else []) ++ layScientific true ds e) =
      (Decimal.readPlain? ((if negative then ['-'] else []) ++ leading ds)).bind fun d =>
        if e < 0 then d.lower e.natAbs else d.raise e.natAbs := by
  have htext : (if negative then ['-'] else []) ++ layScientific true ds e =
      ((if negative then ['-'] else []) ++ leading ds) ++
        'e' :: ((if e < 0 then ['-'] else ['+']) ++ digits e.natAbs) := by
    simp [layScientific, leading]
  have hmark : ∀ c ∈ (if negative then ['-'] else []) ++ leading ds, c ≠ 'e' ∧ c ≠ 'E' := by
    have hdigit (c : Char) (hc : c ∈ ds) : c ≠ 'e' ∧ c ≠ 'E' := by
      have hdigit := hds c hc
      constructor
      · rintro rfl
        exact absurd hdigit (by decide)
      · rintro rfl
        exact absurd hdigit (by decide)
    intro c hc
    simp only [leading, List.mem_append] at hc
    obtain hc | (hc | hc) | hc := hc
    · split at hc
      · rw [List.mem_singleton.1 hc]
        decide
      · cases hc
    · exact hdigit c (List.mem_of_mem_take hc)
    · split at hc
      · cases hc
      · rw [List.mem_singleton.1 hc]
        decide
    · exact hdigit c (List.mem_of_mem_drop hc)
  have hplain : Decimal.readPlain? ((if negative then ['-'] else []) ++ layScientific true ds e) =
      none := by
    rw [htext]
    exact Decimal.readPlain?_eq_none (by decide) (by decide) (by decide) (by decide) (by decide)
      (List.mem_append_right _ (.head _))
  rw [Decimal.read?, hplain]
  simp only
  rw [htext, Decimal.readScaled?_append hmark, Decimal.readExponent?_digits he]
  simp

/-- In front of an exponent, the digits are read as the same value. -/
theorem Layout.read?_scientific (h : Layout ds e |d.value|) :
    ∃ d', Decimal.read? ((if d.mantissa < 0 then ['-'] else []) ++ layScientific true ds e) =
      some d' ∧ d'.value = d.value := by
  obtain ⟨d', hread, hscale, hvalue⟩ := h.readPlain?_leading h.numeral_lt
  simp only [d.value_neg_iff] at hread
  have hpos : 0 < ds.length := List.length_pos_iff.2 h.ne_nil
  have hmost := h.places_le
  have hroom := d.scale_le
  have horder : e < 29 := by
    have hlt : (10 : ℚ) ^ e < 10 ^ (29 : Int) := by
      refine (h.le_value.trans_lt d.abs_value_lt).trans_le ?_
      norm_num [Decimal.limit]
    exact (zpow_lt_zpow_iff_right₀ (by norm_num)).1 hlt
  have hexponent : e.natAbs < UInt32.size := by
    have hsize : UInt32.size = 4294967296 := rfl
    omega
  rw [read?_layScientific h.isDigits hexponent, hread, Option.bind_some]
  split
  · next hneg =>
    have hroom' : d'.scale + e.natAbs ≤ 28 := by omega
    obtain ⟨d'', hlower, hvalue'⟩ := Decimal.exists_lower hroom'
    refine ⟨d'', hlower, ?_⟩
    have hpower : (10 : ℚ) ^ e * 10 ^ e.natAbs = 1 := by
      rw [← zpow_natCast, ← zpow_add₀ (by norm_num), show e + (e.natAbs : Int) = 0 by omega,
        zpow_zero]
    rw [← hvalue, ← hvalue', mul_assoc, mul_comm (10 ^ e.natAbs), hpower, mul_one]
  · next hnonneg =>
    have hpower : (10 : ℚ) ^ e = 10 ^ e.natAbs := by
      rw [← zpow_natCast, show (e.natAbs : Int) = e by omega]
    have hfits : |d'.value| * 10 ^ e.natAbs < Decimal.limit := by
      rw [← abs_of_pos (by positivity : (0 : ℚ) < 10 ^ e.natAbs), ← abs_mul, ← hpower, hvalue]
      exact d.abs_value_lt
    have hshift : e.natAbs ≤ 28 := by omega
    obtain ⟨d'', hraise⟩ := Decimal.exists_raise hshift hfits
    exact ⟨d'', hraise, by rw [Decimal.value_of_raise hraise, ← hpower, hvalue]⟩

/-- In front of an exponent, digits of a value that is too large for a decimal are not read. -/
theorem Layout.read?_large {v : ℚ} (h : Layout ds e v) (hfits : numeral ds < Decimal.limit)
    (hlarge : Decimal.limit ≤ v) (hsmall : v < 10 ^ (100 : Int)) (negative : Bool) :
    Decimal.read? ((if negative then ['-'] else []) ++ layScientific true ds e) = none := by
  have hpos : (0 : ℚ) < v := lt_of_lt_of_le (by norm_num [Decimal.limit]) hlarge
  have horder : 0 ≤ e ∧ e < 100 := by
    constructor
    · have hlt : (10 : ℚ) ^ (0 : Int) < 10 ^ (e + 1) :=
        lt_trans (lt_of_lt_of_le (by norm_num [Decimal.limit]) hlarge) h.value_lt
      exact Int.lt_add_one_iff.1 ((zpow_lt_zpow_iff_right₀ (by norm_num)).1 hlt)
    · exact (zpow_lt_zpow_iff_right₀ (by norm_num : (1 : ℚ) < 10)).1 (h.le_value.trans_lt hsmall)
  obtain ⟨r, hr, hsign⟩ : ∃ r : ℚ, |r| = v ∧ (r < 0 ↔ negative = true) := by
    cases negative
    · exact ⟨v, abs_of_pos hpos, by simp [hpos.le]⟩
    · exact ⟨-v, by rw [abs_neg, abs_of_pos hpos], by simp [hpos]⟩
  rw [← hr] at h hlarge
  obtain ⟨d, hread, -, hvalue⟩ := h.readPlain?_leading hfits
  simp only [hsign] at hread
  have hexponent : e.natAbs < UInt32.size := by
    have hsize : UInt32.size = 4294967296 := rfl
    omega
  rw [read?_layScientific h.isDigits hexponent, hread, Option.bind_some, if_neg (by omega)]
  refine Option.eq_none_iff_forall_ne_some.2 fun d' hraise => ?_
  have hvalue' := Decimal.value_of_raise hraise
  rw [← zpow_natCast, show (e.natAbs : Int) = e by omega, hvalue] at hvalue'
  exact absurd (hvalue' ▸ d'.abs_value_lt) (not_lt.2 hlarge)

end FloatStyle

namespace Binary

variable {x : Binary64}

/-- The text of a finite double other than zero. -/
theorem text_document (hfinite : x.isFinite = true) (hx : x.significand ≠ 0) {ds : List Char}
    {e : Int} (h : FloatStyle.significant (x.shortest .toEven) = (ds, e)) :
    x.text .document = (if x.isNegative = true then ['-'] else []) ++
      if -5 ≤ e ∧ e < 16 then FloatStyle.layPositional true ds e
      else FloatStyle.layScientific true ds e := by
  have hmagnitude : x.magnitude < FloatFormat.double.infinityBits := of_decide_eq_true hfinite
  have hnan : x.isNaN = false := decide_eq_false (by omega)
  have hinfinite : x.isInfinite = false := beq_eq_false_iff_ne.2 (by omega)
  unfold text
  simp [hnan, hinfinite, hx, FloatStyle.document, h]

/-- The text of a double is read as its shortest decimal, if there is such a decimal. -/
theorem read?_text {d : Decimal} (hfinite : x.isFinite = true) (hx : x.significand ≠ 0)
    (hsign : x.isNegative = decide (d.mantissa < 0)) (hdigits : (x.shortest .toEven).digits ≠ 0)
    (hvalue : (x.shortest .toEven).value = |d.value|) :
    ∃ d', Decimal.read? (x.text .document) = some d' ∧ d'.value = d.value := by
  obtain ⟨ds, e, hsignificant, hlayout, -⟩ := FloatStyle.exists_layout hdigits
  rw [hvalue] at hlayout
  rw [text_document hfinite hx hsignificant]
  simp only [hsign, decide_eq_true_eq]
  by_cases hplain : -5 ≤ e ∧ e < 16
  · obtain ⟨d', hread, hvalue'⟩ := hlayout.readPlain?_positional hplain.1 hplain.2
    exact ⟨d', by rw [if_pos hplain, Decimal.read?, hread], hvalue'⟩
  · rw [if_neg hplain]
    exact hlayout.read?_scientific

/-- The text of a double is not read if its shortest decimal is too large. -/
theorem read?_text_large (hfinite : x.isFinite = true) (hx : x.significand ≠ 0)
    (hdigits : (x.shortest .toEven).digits ≠ 0)
    (hfits : (x.shortest .toEven).digits < Decimal.limit)
    (hlarge : Decimal.limit ≤ (x.shortest .toEven).value)
    (hsmall : (x.shortest .toEven).value < 10 ^ (100 : Int)) :
    Decimal.read? (x.text .document) = none := by
  obtain ⟨ds, e, hsignificant, hlayout, hle⟩ := FloatStyle.exists_layout hdigits
  have horder : ¬ (-5 ≤ e ∧ e < 16) := by
    rintro ⟨-, hlt⟩
    have hpower : (10 : ℚ) ^ (e + 1) ≤ 10 ^ (16 : Int) :=
      zpow_le_zpow_right₀ (by norm_num) (by omega)
    have hlimit : (10 : ℚ) ^ (16 : Int) < Decimal.limit := by norm_num [Decimal.limit]
    exact absurd (hlarge.trans_lt (hlayout.value_lt.trans_le hpower)) hlimit.not_gt
  rw [text_document hfinite hx hsignificant, if_neg horder]
  exact hlayout.read?_large (hle.trans_lt hfits) hlarge hsmall _

end Binary

end RemoteTable
