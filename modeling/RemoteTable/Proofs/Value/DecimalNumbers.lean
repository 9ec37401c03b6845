import Mathlib
import RemoteTable.Proofs.Number.NearestDouble
import RemoteTable.Proofs.Row.Body
import RemoteTable.Value.Reader

/-!
Decimals that a body holds as plain numbers. A document holds whole numbers of 64 bits exactly and
of all others the nearest double, so a decimal is read as it is if it is such a whole number or the
shortest decimal of that double. Fifteen significant digits are few enough for this.
-/

namespace RemoteTable

open Text

namespace Decimal

/-- A whole number that a document holds exactly. -/
def IsExactInt (d : Decimal) : Prop :=
  d.scale = 0 ∧ Int64.minValue.toInt ≤ d.mantissa ∧ d.mantissa < UInt64.size

instance (d : Decimal) : Decidable d.IsExactInt := inferInstanceAs (Decidable (_ ∧ _ ∧ _))

/-- The document that a plain number is read as. -/
def asNumber (d : Decimal) : Json := if d.IsExactInt then .int d.mantissa else .float d.toDouble

end Decimal

namespace Json

theorem Ends.halts {r : List Char} (h : Ends r) : Halts r := by
  intro c hc
  obtain rfl | rfl | rfl := h c hc
  all_goals decide

/-- What ends a document is no part of a number in front of it. -/
theorem Ends.splitFraction?_eq {r : List Char} (h : Ends r) :
    splitFraction? r = some (none, r) := by
  cases r with
  | nil => rfl
  | cons c r =>
    obtain rfl | rfl | rfl := h c rfl
    all_goals rfl

theorem Ends.splitExponent?_eq {r : List Char} (h : Ends r) :
    splitExponent? r = some (none, r) := by
  cases r with
  | nil => rfl
  | cons c r =>
    obtain rfl | rfl | rfl := h c rfl
    all_goals rfl

theorem isFinite_toDouble (d : Decimal) : d.toDouble.isFinite = true := by
  obtain hzero | hne := eq_or_ne d.mantissa 0
  · rw [Decimal.toDouble_of_eq_zero hzero]
    decide
  · exact (Decimal.toDouble_normal hne).1.finite

theorem exactInt?_natAbs {d : Decimal} (h : d.scale = 0) :
    exactInt? (decide (d.mantissa < 0)) d.mantissa.natAbs =
      if d.IsExactInt then some (.int d.mantissa) else none := by
  have hmin : Int64.minValue.toInt < 0 := by decide
  unfold exactInt? Decimal.IsExactInt
  by_cases hneg : d.mantissa < 0
  · have hmantissa : -(d.mantissa.natAbs : Int) = d.mantissa := by omega
    rw [decide_eq_true hneg, if_pos rfl, hmantissa]
    refine if_congr ?_ rfl rfl
    have hsize : (0 : Int) ≤ UInt64.size := by decide
    omega
  · have hmantissa : (d.mantissa.natAbs : Int) = d.mantissa := by omega
    rw [decide_eq_false hneg, if_neg (by decide), hmantissa]
    refine if_congr ?_ rfl rfl
    omega

theorem readNumber?_text {d : Decimal} {whole places r : List Char}
    (h : Decimal.Written d whole places) (hzero : whole.head? = some '0' → whole.length = 1)
    (hr : Ends r) :
    readNumber? (decide (d.mantissa < 0))
      (whole ++ ((if d.scale = 0 then [] else '.' :: places) ++ r)) = some (d.asNumber, r) := by
  have hleading : ¬ (whole = [] ∨ whole.head? = some '0' ∧ 1 < whole.length) := by
    rintro (hnil | ⟨hhead, hlong⟩)
    · exact h.whole_ne_nil hnil
    · rw [hzero hhead] at hlong
      exact Nat.lt_irrefl _ hlong
  have hmagnitude : numeral (whole ++ places) = d.mantissa.natAbs :=
    (Nat.ofDigitChars_append 0).trans h.magnitude
  have hdouble : Binary.ofScientific .double (decide (d.mantissa < 0)) (numeral (whole ++ places))
      (-places.length) = d.toDouble := by
    rw [hmagnitude, h.length_places]
    rfl
  have hfinite := isFinite_toDouble d
  unfold readNumber?
  by_cases hscale : d.scale = 0
  · obtain rfl : places = [] := List.length_eq_zero_iff.1 (h.length_places.trans hscale)
    rw [List.append_nil] at hmagnitude hdouble
    rw [hmagnitude] at hdouble
    rw [if_pos hscale, List.nil_append, spanDigits_append h.isDigits_whole hr.halts]
    simp only [if_neg hleading, hr.splitFraction?_eq, hr.splitExponent?_eq, Option.bind_eq_bind,
      Option.bind_some]
    by_cases hexact : d.IsExactInt
    · simp [hmagnitude, exactInt?_natAbs hscale, Decimal.asNumber, hexact]
    · simp only [List.length_nil, Nat.cast_zero, neg_zero] at hdouble
      simp [hdouble, hmagnitude, exactInt?_natAbs hscale, Decimal.asNumber, hfinite, hexact]
  · have hpoint : Halts ('.' :: (places ++ r)) := halts_cons (by decide) _
    have hne : places ≠ [] := fun hnil => hscale (by rw [← h.length_places, hnil]; rfl)
    rw [if_neg hscale, List.cons_append, spanDigits_append h.isDigits_whole hpoint]
    have hfraction : splitFraction? ('.' :: (places ++ r)) = some (some places, r) := by
      rw [splitFraction?, spanDigits_append h.isDigits_places hr.halts]
      simp [hne]
    have hinexact : ¬ d.IsExactInt := fun hexact => hscale hexact.1
    simp only [if_neg hleading, hfraction, hr.splitExponent?_eq, Option.bind_eq_bind,
      Option.bind_some]
    simp [hdouble, Decimal.asNumber, hfinite, hinexact]

theorem isSpace_of_isDigit {c : Char} (h : c.isDigit = true) : isSpace c = false := by
  simp only [isSpace, Bool.or_eq_false_iff, beq_eq_false_iff_ne]
  refine ⟨⟨⟨?_, ?_⟩, ?_⟩, ?_⟩
  all_goals
    rintro rfl
    exact absurd h (by decide)

/-- A text that starts with a digit is read as a number. -/
theorem readValue?_digits {ds : List Char} (hds : IsDigits ds) (hne : ds ≠ []) (fuel depth : Nat)
    (r : List Char) : readValue? (fuel + 1) depth (ds ++ r) = readNumber? false (ds ++ r) := by
  obtain ⟨c, ds, rfl⟩ := List.exists_cons_of_ne_nil hne
  have hc := hds c (.head ds)
  have hother (b : Char) (hb : b.isDigit = false) : c ≠ b := by
    rintro rfl
    exact absurd (hb.symm.trans hc) (by decide)
  rw [List.cons_append, readValue?, skipSpace_cons (isSpace_of_isDigit hc)]
  simp [hother 'n' (by decide), hother 't' (by decide), hother 'f' (by decide),
    hother '"' (by decide), hother '[' (by decide), hother '\x7b' (by decide),
    hother '-' (by decide)]

/-- A decimal written as a plain number is read wherever it stands. -/
theorem reads_text (depth : Nat) (d : Decimal) : Reads depth d.text d.asNumber where
  starts := by
    obtain ⟨whole, places, hwritten, htext, -⟩ := d.exists_written
    obtain ⟨c, ds, rfl⟩ := List.exists_cons_of_ne_nil hwritten.whole_ne_nil
    have hc := hwritten.isDigits_whole c (.head ds)
    rw [htext]
    split
    · exact ⟨_, _, rfl, by decide, by decide⟩
    · refine ⟨_, _, rfl, isSpace_of_isDigit hc, ?_⟩
      rintro rfl
      exact absurd hc (by decide)
  readValue?_eq fuel r hfuel hr := by
    obtain ⟨fuel, rfl⟩ := Nat.exists_eq_succ_of_ne_zero (by omega : fuel ≠ 0)
    obtain ⟨whole, places, hwritten, htext, hzero⟩ := d.exists_written
    have hnumber := readNumber?_text hwritten hzero hr
    rw [htext]
    by_cases hneg : d.mantissa < 0
    · rw [decide_eq_true hneg] at hnumber
      rw [if_pos hneg, List.append_assoc, List.append_assoc, List.singleton_append, readValue?,
        skipSpace_cons (c := '-') rfl]
      exact hnumber
    · rw [decide_eq_false hneg] at hnumber
      rw [if_neg hneg, List.nil_append, List.append_assoc,
        readValue?_digits hwritten.isDigits_whole hwritten.whole_ne_nil]
      exact hnumber

end Json

/-- A decimal under a column, written as a plain number. -/
def Row.Cell.number (d : Decimal) : Row.Cell :=
  ⟨d.text, d.asNumber, fun depth _ => Json.reads_text depth d⟩

namespace Value

theorem ofJson_int {d : Decimal} (h : d.scale = 0) :
    ofJson .decimal (.int d.mantissa) = .ok (.decimal d) := by
  have hpos : 0 < (digits d.mantissa.natAbs).length := List.length_pos_iff.2 (digits_ne_nil _)
  have htext : integer d.mantissa = d.text := by
    have hpadded : padded (0 + 1) d.mantissa.natAbs = digits d.mantissa.natAbs := by
      rw [padded, Nat.sub_eq_zero_of_le (by omega), List.replicate_zero, List.nil_append]
    unfold integer Decimal.text
    simp only [h, hpadded, Nat.sub_zero, List.take_length, if_true, List.append_nil]
    split
    · rfl
    · rfl
  simp [ofJson, decimalOfJson, Json.text, Json.chars, htext, Decimal.read?_text]

theorem ofJson_float_iff (x : Binary64) (d : Decimal) :
    ofJson .decimal (.float x) = .ok (.decimal d) ↔ Decimal.read? (x.text .document) = some d := by
  simp only [ofJson, decimalOfJson, Json.text, Json.chars, Json.floatText, String.toList_ofList]
  split
  · next d' hread => simp [hread]
  · next hread => simp [hread]

/-- A decimal written as a plain number is read as it is just if it is a whole number that a
document holds exactly or the shortest decimal of the nearest double. -/
theorem ofJson_asNumber_iff (d : Decimal) :
    (∃ d', ofJson .decimal d.asNumber = .ok (.decimal d') ∧ d'.value = d.value) ↔
      d.IsExactInt ∨ d.IsShortest := by
  unfold Decimal.asNumber
  split
  · next hexact => exact iff_of_true ⟨d, ofJson_int hexact.1, rfl⟩ (.inl hexact)
  · next hinexact =>
    simp only [ofJson_float_iff, Decimal.read?_toDouble_iff, hinexact, false_or]

/-- A column of a body that holds a decimal written as a plain number is read as that decimal just
if a document holds it exactly: as a whole number, or as the shortest decimal of a double, which
every decimal of no more than fifteen significant digits is. This takes the reader of documents to
find the nearest double, as `readNumber?` does, also where there are many digits or places. -/
theorem ofJson_number_iff {t : List Char} {rows : List Row.Cells} (hbody : Row.IsBody t rows)
    {i : Nat} {row : Row.Cells} (hrow : rows[i]? = some row) {name : String} {d : Decimal}
    (hcell : row.reverse.lookup name = some (.number d)) :
    ∃ objects o j, Row.objectsOf (String.ofList t).toUTF8 = .ok objects ∧ objects[i]? = some o ∧
      o.lookup name = some j ∧
      ((∃ d', ofJson .decimal j = .ok (.decimal d') ∧ d'.value = d.value) ↔
        d.IsExactInt ∨ d.IsShortest) ∧
      (d.HasDigits 15 → d.IsShortest) := by
  refine ⟨_, row.members, d.asNumber, Row.objectsOf_body hbody, ?_, Row.Cells.lookup_members hcell,
    ofJson_asNumber_iff d, Decimal.HasDigits.isShortest⟩
  rw [List.getElem?_map, hrow]
  rfl

/-- A row with one column, which holds a decimal. -/
def pricedAt (d : Decimal) : Row.Cells := [("price", .number d)]

def listPrice : Decimal := ⟨1275, 2, by decide, by decide⟩

/-- A price of four digits is read as it is. -/
theorem ofJson_listPrice : String.ofList ('[' :: Json.listed ']' [(pricedAt listPrice).text]) =
      "[\x7b\"price\":12.75\x7d]" ∧
    ∃ objects o j, Row.objectsOf "[\x7b\"price\":12.75\x7d]".toUTF8 = .ok objects ∧
      objects[0]? = some o ∧ o.lookup "price" = some j ∧
      ∃ d', ofJson .decimal j = .ok (.decimal d') ∧ d'.value = listPrice.value := by
  have htext : String.ofList ('[' :: Json.listed ']' [(pricedAt listPrice).text]) =
      "[\x7b\"price\":12.75\x7d]" := by
    decide +kernel
  have hdigits : listPrice.HasDigits 15 := ⟨1275, 0, by decide, rfl⟩
  obtain ⟨objects, o, j, hobjects, ho, hj, hexact, hfew⟩ := ofJson_number_iff
    (.rows [pricedAt listPrice]) (rfl : [pricedAt listPrice][0]? = some (pricedAt listPrice))
    (rfl : (pricedAt listPrice).reverse.lookup "price" = some (.number listPrice))
  rw [List.map_singleton, htext] at hobjects
  exact ⟨htext, objects, o, j, hobjects, ho, hj, hexact.2 (.inr (hfew hdigits))⟩

def bookPrice : Decimal := ⟨1234567890123456789, 2, by decide, by decide⟩

/-- A price of nineteen digits is read as another one. -/
theorem ofJson_bookPrice : bookPrice.text = "12345678901234567.89".toList ∧
    ∃ objects o j d',
      Row.objectsOf "[\x7b\"price\":12345678901234567.89\x7d]".toUTF8 = .ok objects ∧
      objects[0]? = some o ∧ o.lookup "price" = some j ∧
      ofJson .decimal j = .ok (.decimal d') ∧ d'.value ≠ bookPrice.value := by
  have htext : String.ofList ('[' :: Json.listed ']' [(pricedAt bookPrice).text]) =
      "[\x7b\"price\":12345678901234567.89\x7d]" := by
    decide +kernel
  have hobjects := Row.objectsOf_body (.rows [pricedAt bookPrice])
  rw [List.map_singleton, htext] at hobjects
  have hread : Decimal.read? (bookPrice.toDouble.text .document) =
      some ⟨12345678901234568, 0, by decide, by decide⟩ := by
    decide +kernel
  have hinexact : ¬ bookPrice.IsExactInt := by decide
  have hnumber : ofJson .decimal bookPrice.asNumber =
      .ok (.decimal ⟨12345678901234568, 0, by decide, by decide⟩) := by
    rw [Decimal.asNumber, if_neg hinexact]
    exact (ofJson_float_iff _ _).2 hread
  refine ⟨by decide +kernel, _, _, _, _, hobjects, rfl, Row.Cells.lookup_members rfl, hnumber, ?_⟩
  norm_num [Decimal.value, bookPrice]

end Value

end RemoteTable
