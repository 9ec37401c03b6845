import Mathlib
import RemoteTable.Number.Decimal
import RemoteTable.Proofs.Text.Digits

/-!
Decimals are read as they are written, with every place: no digit of a written decimal is rounded
away, since none of the magnitudes on the way is larger than that of the whole. An exponent behind a
decimal raises or lowers the value that it stands for.
-/

namespace RemoteTable.Decimal

open Text

/-- Digits make a magnitude no smaller. -/
theorem le_ofDigitChars (ds : List Char) (m : Nat) : m ≤ Nat.ofDigitChars 10 ds m := by
  induction ds generalizing m with
  | nil => simp
  | cons c ds ih =>
    rw [Nat.ofDigitChars_cons]
    have hle := ih (10 * m + (c.toNat - '0'.toNat))
    omega

/-- A digit is taken up if the magnitude with it and its place fit. -/
theorem scan_cons {c : Char} (hc : c.isDigit = true) {point : Bool} (started : Bool) {m scale : Nat}
    (hfits : 10 * m + (c.toNat - '0'.toNat) < limit) (hplace : point = true → scale < 28)
    (r : List Char) : scan point started m scale (c :: r) =
      scan point true (10 * m + (c.toNat - '0'.toNat)) (if point then scale + 1 else scale) r := by
  have hnext : m * 10 + numeral [c] = 10 * m + (c.toNat - '0'.toNat) := by
    rw [numeral, Nat.ofDigitChars_cons, Nat.ofDigitChars_nil]
    omega
  have hscale : ¬ (point && (decide (28 ≤ scale) || decide (limit ≤ m * 10 + numeral [c]))) := by
    rw [hnext]
    simp only [Bool.and_eq_true, Bool.or_eq_true, decide_eq_true_eq]
    rintro ⟨hpoint, hge | hge⟩
    · exact absurd (hplace hpoint) (by omega)
    · omega
  rw [scan, if_pos hc]
  simp only [if_neg hscale]
  rw [hnext, if_neg (by omega)]

/-- Digits are taken up as long as the magnitude and the places fit. -/
theorem scan_digits {ds : List Char} (hds : IsDigits ds) (point started : Bool) {m scale : Nat}
    (hfits : Nat.ofDigitChars 10 ds m < limit)
    (hplaces : point = true → scale + ds.length ≤ 28) (r : List Char) :
    scan point started m scale (ds ++ r) = scan point (started || !ds.isEmpty)
      (Nat.ofDigitChars 10 ds m) (if point then scale + ds.length else scale) r := by
  induction ds generalizing started m scale with
  | nil => simp
  | cons c ds ih =>
    obtain ⟨hc, hds⟩ := List.forall_mem_cons.1 hds
    rw [Nat.ofDigitChars_cons] at hfits ⊢
    rw [List.length_cons] at hplaces
    have hle := le_ofDigitChars ds (10 * m + (c.toNat - '0'.toNat))
    rw [List.cons_append, scan_cons hc started (by omega) (fun h => by have := hplaces h; omega)]
    rw [ih hds true hfits (fun h => by have := hplaces h; rw [if_pos h]; omega)]
    cases point
    · simp
    · simp [Nat.add_assoc, Nat.add_comm 1]

/-- A point is passed once. -/
theorem scan_point (started : Bool) (m scale : Nat) (r : List Char) :
    scan false started m scale ('.' :: r) = scan true started m scale r := by
  simp [scan]

/-- What is written of a decimal after its sign: digits before the point, and one for each place
after it. -/
structure Written (d : Decimal) (whole places : List Char) : Prop where
  isDigits_whole : IsDigits whole
  isDigits_places : IsDigits places
  whole_ne_nil : whole ≠ []
  length_places : places.length = d.scale
  magnitude : Nat.ofDigitChars 10 places (Nat.ofDigitChars 10 whole 0) = d.mantissa.natAbs

/-- The text of a decimal is what is written of it. A zero in front of the point stands alone. -/
theorem exists_written (d : Decimal) : ∃ whole places, Written d whole places ∧
    d.text = (if d.mantissa < 0 then ['-'] else []) ++
      (whole ++ if d.scale = 0 then [] else '.' :: places) ∧
    (whole.head? = some '0' → whole.length = 1) := by
  have hdigits := isDigits_padded (d.scale + 1) d.mantissa.natAbs
  have hlength := length_padded (d.scale + 1) d.mantissa.natAbs
  refine ⟨_, _, ⟨fun c hc => hdigits c (List.mem_of_mem_take hc),
    fun c hc => hdigits c (List.mem_of_mem_drop hc), ?_, ?_, ?_⟩, List.append_assoc .., ?_⟩
  · refine List.ne_nil_of_length_pos ?_
    rw [List.length_take]
    omega
  · rw [List.length_drop]
    omega
  · rw [← Nat.ofDigitChars_append, List.take_append_drop]
    exact numeral_padded _ _
  · intro hzero
    rw [List.length_take]
    by_cases hlong : d.scale + 1 ≤ (digits d.mantissa.natAbs).length
    · obtain hnat | hnat := eq_or_ne d.mantissa.natAbs 0
      · have hone : (digits d.mantissa.natAbs).length = 1 := by rw [hnat]; rfl
        omega
      · have hpadded : padded (d.scale + 1) d.mantissa.natAbs = digits d.mantissa.natAbs := by
          rw [padded, Nat.sub_eq_zero_of_le hlong, List.replicate_zero, List.nil_append]
        rw [hpadded, List.head?_take, if_neg (by omega)] at hzero
        obtain ⟨r, hr⟩ := List.head?_eq_some_iff.1 hzero
        exact absurd hr (digits_ne_zero_cons hnat r)
    · omega

/-- Scanning what is written of a decimal finds its magnitude and all its places. -/
theorem Written.scan_eq {d : Decimal} {whole places : List Char} (h : Written d whole places) :
    scan false false 0 0 (whole ++ if d.scale = 0 then [] else '.' :: places) =
      some (d.mantissa.natAbs, d.scale) := by
  have hfits : Nat.ofDigitChars 10 places (Nat.ofDigitChars 10 whole 0) < limit :=
    h.magnitude ▸ d.mantissa_lt
  have hwhole : Nat.ofDigitChars 10 whole 0 < limit :=
    Nat.lt_of_le_of_lt (le_ofDigitChars places _) hfits
  have hstarted : (false || !whole.isEmpty) = true := by simp [h.whole_ne_nil]
  rw [scan_digits h.isDigits_whole false false hwhole (by simp), hstarted, if_neg (by decide)]
  split
  · next hscale =>
    have hplaces : places = [] := List.length_eq_zero_iff.1 (h.length_places.trans hscale)
    have hmagnitude := h.magnitude
    rw [hplaces, Nat.ofDigitChars_nil] at hmagnitude
    rw [hmagnitude, hscale]
    rfl
  · have hroom : 0 + places.length ≤ 28 := by
      have hscale := d.scale_le
      have hlength := h.length_places
      omega
    have hscan := scan_digits h.isDigits_places true true hfits (fun _ => hroom) []
    rw [List.append_nil, h.magnitude] at hscan
    rw [scan_point, hscan]
    simp [scan, h.length_places]

theorem make?_self (d : Decimal) : make? d.mantissa d.scale = some d :=
  dif_pos ⟨d.mantissa_lt, d.scale_le⟩

/-- Without a sign, a decimal is not negative. -/
theorem readPlain?_digits {ds : List Char} (hds : IsDigits ds) (hne : ds ≠ []) (r : List Char) :
    readPlain? (ds ++ r) =
      (scan false false 0 0 (ds ++ r)).bind fun (m, scale) => make? (m : Int) scale := by
  obtain ⟨c, ds, rfl⟩ := List.exists_cons_of_ne_nil hne
  have hdigit := hds c (.head ds)
  unfold readPlain?
  split
  · next h =>
    split at h
    · next hsign => cases hsign; exact absurd hdigit (by decide)
    · next hsign => cases hsign; exact absurd hdigit (by decide)
    · cases h; rfl

/-- What is written of a decimal is read after the sign that it has. -/
theorem Written.readPlain?_eq {d : Decimal} {whole places : List Char} (h : Written d whole places) :
    readPlain? ((if d.mantissa < 0 then ['-'] else []) ++
      (whole ++ if d.scale = 0 then [] else '.' :: places)) = some d := by
  split
  · next hneg =>
    have hmantissa : -(d.mantissa.natAbs : Int) = d.mantissa := by omega
    have hread := make?_self d
    rw [← hmantissa] at hread
    simp only [readPlain?, List.cons_append, List.nil_append, h.scan_eq, Option.bind_eq_bind,
      Option.bind_some, if_true, hread]
  · next hnonneg =>
    have hmantissa : (d.mantissa.natAbs : Int) = d.mantissa := by omega
    rw [List.nil_append, readPlain?_digits h.isDigits_whole h.whole_ne_nil, h.scan_eq]
    simp [hmantissa, make?_self]

/-- A decimal is read back with its mantissa and its scale, so with the zeros at its end. -/
theorem read?_text (d : Decimal) : read? d.text = some d := by
  obtain ⟨whole, places, hwritten, htext, -⟩ := exists_written d
  rw [read?, htext, hwritten.readPlain?_eq]

/-- The number that a decimal stands for. -/
def value (d : Decimal) : ℚ := d.mantissa / 10 ^ d.scale

theorem value_neg_iff (d : Decimal) : d.value < 0 ↔ d.mantissa < 0 := by
  have hpos : (0 : ℚ) < 10 ^ d.scale := by positivity
  rw [value, div_neg_iff]
  simp only [hpos, hpos.not_gt, and_false, and_true, false_or]
  exact_mod_cast Iff.rfl

/-- Digits around a point, of which there are no more than fit, are written of a decimal that stands
for the same value with either sign. -/
theorem exists_written_of {whole places : List Char} {v : ℚ} (hwhole : IsDigits whole)
    (hplaces : IsDigits places) (hne : whole ≠ []) (hfits : numeral (whole ++ places) < limit)
    (hscale : places.length ≤ 28)
    (hvalue : (numeral (whole ++ places) : ℚ) = |v| * 10 ^ places.length) :
    ∃ d : Decimal, Written d whole places ∧ d.scale = places.length ∧ d.value = v := by
  have hmagnitude : Nat.ofDigitChars 10 places (Nat.ofDigitChars 10 whole 0) =
      numeral (whole ++ places) := (Nat.ofDigitChars_append 0).symm
  have habs : ((if v < 0 then -1 else 1) * (numeral (whole ++ places) : Int)).natAbs =
      numeral (whole ++ places) := by
    split <;> simp
  refine ⟨⟨_, places.length, habs.trans_lt hfits, hscale⟩,
    ⟨hwhole, hplaces, hne, rfl, hmagnitude.trans habs.symm⟩, rfl, ?_⟩
  have hpos : (0 : ℚ) < 10 ^ places.length := by positivity
  rw [value, div_eq_iff hpos.ne']
  push_cast
  rw [hvalue]
  split
  · next hneg => rw [abs_of_neg hneg]; ring
  · next hnonneg => rw [abs_of_nonneg (not_lt.1 hnonneg)]; ring

theorem abs_value_mul (d : Decimal) : |d.value| * 10 ^ d.scale = d.mantissa.natAbs := by
  have hpos : (0 : ℚ) < 10 ^ d.scale := by positivity
  rw [value, abs_div, abs_of_pos hpos, div_mul_cancel₀ _ hpos.ne', ← Int.cast_abs,
    Int.abs_eq_natAbs, Int.cast_natCast]

/-- The magnitude of a decimal at fewer places is no larger. -/
theorem abs_value_mul_le (d : Decimal) {k : Nat} (hk : k ≤ d.scale) :
    |d.value| * 10 ^ k ≤ d.mantissa.natAbs := by
  rw [← d.abs_value_mul]
  gcongr
  norm_num

theorem abs_value_lt (d : Decimal) : |d.value| < limit := by
  have hle := d.abs_value_mul_le (Nat.zero_le _)
  rw [pow_zero, mul_one] at hle
  exact hle.trans_lt (by exact_mod_cast d.mantissa_lt)

theorem of_make? {m : Int} {scale : Nat} {d : Decimal} (h : make? m scale = some d) :
    d.mantissa = m ∧ d.scale = scale := by
  unfold make? at h
  split at h
  · cases h
    exact ⟨rfl, rfl⟩
  · cases h

theorem mul_pow_sub {d : Decimal} {n : Nat} (h : d.scale ≤ n) :
    ((d.mantissa * (10 ^ (n - d.scale) : Nat) : Int) : ℚ) = d.value * 10 ^ n := by
  have hpos : (10 : ℚ) ^ d.scale ≠ 0 := by positivity
  rw [value, div_mul_eq_mul_div, eq_div_iff hpos]
  push_cast
  rw [mul_assoc, ← pow_add, Nat.sub_add_cancel h]

/-- Raised, a decimal stands for the product. -/
theorem value_of_raise {d d' : Decimal} {n : Nat} (h : d.raise n = some d') :
    d'.value = d.value * 10 ^ n := by
  unfold raise at h
  split at h
  · next hle =>
    obtain ⟨hmantissa, hscale⟩ := of_make? h
    rw [value, value, hmantissa, hscale, div_mul_eq_mul_div,
      div_eq_div_iff (by positivity) (by positivity), mul_assoc, ← pow_add, Nat.add_comm,
      Nat.sub_add_cancel hle]
  · next hlt =>
    split at h
    · cases h
    · obtain ⟨hmantissa, hscale⟩ := of_make? h
      rw [← mul_pow_sub (by omega), value, hmantissa, hscale, pow_zero, div_one]
      rfl

/-- A decimal can be raised if the product is not too large. -/
theorem exists_raise {d : Decimal} {n : Nat} (hn : n ≤ 28) (hfits : |d.value| * 10 ^ n < limit) :
    ∃ d', d.raise n = some d' := by
  unfold raise
  split
  · next hle => exact ⟨_, dif_pos ⟨d.mantissa_lt, by have := d.scale_le; omega⟩⟩
  · next hlt =>
    have hsmall : (d.mantissa * (10 ^ (n - d.scale) : Nat)).natAbs < limit := by
      have habs : (((d.mantissa * (10 ^ (n - d.scale) : Nat)).natAbs : Nat) : ℚ) < limit := by
        rw [← Int.cast_natCast, Int.natCast_natAbs, Int.cast_abs, mul_pow_sub (by omega), abs_mul,
          abs_of_pos (by positivity : (0 : ℚ) < 10 ^ n)]
        exact hfits
      exact_mod_cast habs
    rw [if_neg (by omega)]
    exact ⟨_, dif_pos ⟨hsmall, by decide⟩⟩

/-- Lowered, a decimal stands for the quotient if there is room for the places. -/
theorem exists_lower {d : Decimal} {n : Nat} (hn : d.scale + n ≤ 28) :
    ∃ d', d.lower n = some d' ∧ d'.value * 10 ^ n = d.value := by
  unfold lower
  rw [if_neg (by omega), if_pos hn]
  refine ⟨_, dif_pos ⟨d.mantissa_lt, hn⟩, ?_⟩
  rw [value, value, pow_add]
  field_simp

/-- A character that is no part of a plain decimal is not passed. -/
theorem scan_eq_none {c : Char} (hdigit : c.isDigit = false) (hpoint : c ≠ '.') (hgap : c ≠ '_')
    {s : List Char} (hc : c ∈ s) (point started : Bool) (m scale : Nat) :
    scan point started m scale s = none := by
  induction s generalizing point started m scale with
  | nil => cases hc
  | cons b r ih =>
    have htail (h : b.isDigit = true ∨ b = '.' ∨ b = '_') : c ∈ r := by
      obtain rfl | hr := List.mem_cons.1 hc
      · obtain h | h | h := h
        · exact absurd (h.symm.trans hdigit) (by decide)
        · exact absurd h hpoint
        · exact absurd h hgap
      · exact hr
    unfold scan
    simp only
    split
    · next hb =>
      have hr := htail (.inl hb)
      have hunkept : unkept r = false := by
        refine List.all_eq_false.2 ⟨c, hr, ?_⟩
        simp [hdigit, hgap]
      simp [hunkept, ih hr]
    · split
      · next hb => exact ih (htail (.inr (.inl hb.1))) ..
      · split
        · next hb => exact ih (htail (.inr (.inr hb.1))) ..
        · rfl

theorem readPlain?_eq_none {c : Char} (hdigit : c.isDigit = false) (hpoint : c ≠ '.')
    (hgap : c ≠ '_') (hminus : c ≠ '-') (hplus : c ≠ '+') {s : List Char} (hc : c ∈ s) :
    readPlain? s = none := by
  unfold readPlain?
  split
  next negative r hr =>
    have hmem : c ∈ r := by
      split at hr
      all_goals cases hr
      · exact (List.mem_cons.1 hc).resolve_left hminus
      · exact (List.mem_cons.1 hc).resolve_left hplus
      · exact hc
    rw [scan_eq_none hdigit hpoint hgap hmem]
    rfl

/-- An exponent is read with the sign that stands before it. -/
theorem readExponent?_digits {e : Int} (he : e.natAbs < UInt32.size) :
    readExponent? ((if e < 0 then ['-'] else ['+']) ++ digits e.natAbs) =
      some (decide (e < 0), e.natAbs) := by
  -- no further sign is taken off behind a minus sign
  have hplus (r : List Char) : digits e.natAbs ≠ '+' :: r := fun h =>
    absurd (isDigits_digits e.natAbs '+' (h ▸ .head r)) (by decide)
  by_cases hneg : e < 0
  · simp [readExponent?, natural?_digits, hneg, he]
  · simp [readExponent?, natural?_digits, hneg, he]

/-- In front of the first exponent mark stands a plain decimal. -/
theorem readScaled?_append {front : List Char} (h : ∀ c ∈ front, c ≠ 'e' ∧ c ≠ 'E')
    (r : List Char) : readScaled? (front ++ 'e' :: r) = (readPlain? front).bind fun d =>
      (readExponent? r).bind fun (negative, n) => if negative then d.lower n else d.raise n := by
  have hfront : ∀ c ∈ front, (!(c == 'e' || c == 'E')) = true := fun c hc => by
    simp [(h c hc).1, (h c hc).2]
  unfold readScaled?
  simp only
  rw [List.takeWhile_append_of_pos hfront, List.dropWhile_append_of_pos hfront]
  simp

end RemoteTable.Decimal
