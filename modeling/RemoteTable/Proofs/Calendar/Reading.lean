import Mathlib
import RemoteTable.Calendar.Timestamp
import RemoteTable.Proofs.Text.Digits

/-!
Dates and times are read as they are written: any year with its sign and width, any number of
places after the point, and leap seconds at the end of a minute. A leap second within a minute has
the text of the second after it, and that second is what is read. What comes after a written piece
may be anything that a reader could not take for more of it.
-/

namespace RemoteTable

namespace Calendar

open Text

/-- A field of as many digits as it may have. -/
theorem readField?_padded {width n : Nat} (hwidth : 0 < width) (h : n < 10 ^ width)
    (r : List Char) : readField? width (padded width n ++ r) = some (n, r) := by
  have htake : takeDigits width (padded width n ++ r) = (padded width n, r) := by
    have htake := takeDigits_append (isDigits_padded width n) r
    rwa [length_padded_of_lt hwidth h] at htake
  rw [readField?, dropBlanks_digits (isDigits_padded width n) (padded_ne_nil width n), htake]
  simp [padded_ne_nil]

theorem readMark?_cons (mark : Char) (h : isBlank mark = false) (r : List Char) :
    readMark? mark (mark :: r) = some r := by
  simp [readMark?, dropBlanks_cons h]

end Calendar

namespace Date

open Calendar Text

/-- Without a sign, a year is a field of four digits. -/
theorem readYear?_digits {ds : List Char} (hds : IsDigits ds) (hne : ds ≠ []) (r : List Char) :
    readYear? (ds ++ r) = (readField? 4 (ds ++ r)).map fun (n, r) => ((n : Int), r) := by
  obtain ⟨c, ds, rfl⟩ := List.exists_cons_of_ne_nil hne
  have hdigit := hds c (.head ds)
  rw [readYear?, dropBlanks_digits hds hne]
  split
  · next h => cases h; exact absurd hdigit (by decide)
  · next h => cases h; exact absurd hdigit (by decide)
  · rfl

/-- A year is read up to the hyphen after it. -/
theorem readYear?_yearText (year : Int) (r : List Char) :
    readYear? (yearText year ++ '-' :: r) = some (year, '-' :: r) := by
  have hhalts : Halts ('-' :: r) := halts_cons rfl r
  unfold yearText
  split
  · next hneg =>
    have hspan := spanDigits_append (isDigits_padded 4 year.natAbs) hhalts
    have hyear : -1 * (year.natAbs : Int) = year := by omega
    simp only [readYear?, List.cons_append, dropBlanks_cons (c := '-') rfl, hspan,
      if_neg (padded_ne_nil 4 _), numeral_padded, hyear]
  · next hnonneg =>
    have hyear : (year.natAbs : Int) = year := by omega
    split
    · have hspan := spanDigits_append (isDigits_digits year.natAbs) hhalts
      simp [readYear?, dropBlanks_cons (c := '+') rfl, hspan, digits_ne_nil, hyear]
    · next hfour =>
      have hlt : year.natAbs < 10 ^ 4 := by omega
      rw [readYear?_digits (isDigits_padded 4 _) (padded_ne_nil 4 _),
        readField?_padded (by decide) hlt]
      exact congrArg (fun y => some (y, '-' :: r)) hyear

theorem make?_self (d : Date) : make? d.year d.month d.day = some d := dif_pos d.valid

theorem day_le (d : Date) : d.day ≤ 31 := by
  obtain ⟨-, -, -, -, -, hday⟩ := d.valid
  have hdays : daysInMonth d.year d.month ≤ 31 := by
    unfold daysInMonth
    split
    · split <;> omega
    · split <;> omega
  omega

/-- A date is read from the start of any text that it stands before. -/
theorem readPart?_text (d : Date) (r : List Char) : readPart? (d.text ++ r) = some (d, r) := by
  obtain ⟨-, -, -, hmonth, -⟩ := d.valid
  have hday := d.day_le
  have htext : d.text ++ r =
      yearText d.year ++ '-' :: (padded 2 d.month ++ '-' :: (padded 2 d.day ++ r)) := by
    simp [text]
  rw [htext, readPart?, readYear?_yearText]
  simp only [Option.bind_eq_bind, Option.bind_some, readMark?_cons '-' rfl]
  rw [readField?_padded (by decide) (show d.month < 10 ^ 2 by omega)]
  simp only [Option.bind_some, readMark?_cons '-' rfl]
  rw [readField?_padded (by decide) (show d.day < 10 ^ 2 by omega)]
  simp only [Option.bind_some, make?_self]

/-- Dates of all years are read back, those of more than four digits and those before the year zero
among them. -/
theorem read?_text (d : Date) : read? d.text = some d := by
  have hpart := readPart?_text d []
  rw [List.append_nil] at hpart
  simp only [read?, hpart, Option.bind_eq_bind, Option.bind_some]
  exact if_pos rfl

end Date

namespace Time

open Calendar Text

theorem readFraction?_none {r : List Char} (h : r.head? ≠ some '.') :
    readFraction? r = some (0, r) := by
  unfold readFraction?
  split
  · exact absurd rfl h
  · rfl

/-- Places after a point are read up to what is no digit. -/
theorem readFraction?_places {ds r : List Char} (hds : IsDigits ds) (hne : ds ≠ [])
    (hlength : ds.length ≤ 9) (hr : Halts r) :
    readFraction? ('.' :: ds ++ r) = some (numeral ds * 10 ^ (9 - ds.length), r) := by
  simp [readFraction?, spanDigits_append hds hr, hne, List.take_of_length_le hlength]

theorem readFraction?_padded {places n nanos : Nat} {r : List Char} (hplaces : 0 < places)
    (hle : places ≤ 9) (h : n < 10 ^ places) (hnanos : n * 10 ^ (9 - places) = nanos)
    (hr : Halts r) : readFraction? ('.' :: padded places n ++ r) = some (nanos, r) := by
  have hlength := length_padded_of_lt hplaces h
  have hread := readFraction?_places (isDigits_padded places n) (padded_ne_nil places n)
    (by rwa [hlength]) hr
  rwa [numeral_padded, hlength, hnanos] at hread

/-- The fraction of a second is read back, whether it takes three places, six, nine or none. -/
theorem readFraction?_fractionText {nanos : Nat} {r : List Char} (h : nanos < 1000000000)
    (hr : Halts r) (hpoint : r.head? ≠ some '.') :
    readFraction? (fractionText nanos ++ r) = some (nanos, r) := by
  unfold fractionText
  split
  · next hzero =>
    subst hzero
    exact readFraction?_none hpoint
  · split
    · exact readFraction?_padded (by decide) (by decide) (by omega) (by omega) hr
    · split
      · exact readFraction?_padded (by decide) (by decide) (by omega) (by omega) hr
      · exact readFraction?_padded (by decide) (by decide) (by omega) (by omega) hr

theorem readMinutes?_text {hour minute : Nat} (hhour : hour < 24) (hminute : minute < 60)
    (r : List Char) :
    readMinutes? (padded 2 hour ++ ':' :: padded 2 minute ++ r) = some (hour, minute, r) := by
  rw [List.append_assoc, List.cons_append, readMinutes?,
    readField?_padded (by decide) (show hour < 10 ^ 2 by omega)]
  simp only [Option.bind_eq_bind, Option.bind_some, readMark?_cons ':' rfl]
  rw [readField?_padded (by decide) (show minute < 10 ^ 2 by omega)]
  simp [hhour, hminute]

theorem readSeconds?_text {second nanos : Nat} {r : List Char} (hsecond : second ≤ 60)
    (hnanos : nanos < 1000000000) (hr : Halts r) (hpoint : r.head? ≠ some '.') :
    readSeconds? (':' :: padded 2 second ++ fractionText nanos ++ r) =
      some (second, nanos, r) := by
  rw [List.append_assoc, List.cons_append, readSeconds?]
  simp only [Option.bind_eq_bind, Option.bind_some, readMark?_cons ':' rfl]
  rw [readField?_padded (by decide) (show second < 10 ^ 2 by omega)]
  simp only [Option.bind_some, readFraction?_fractionText hnanos hr hpoint, hsecond, if_true]

/-- Leap nanoseconds come after the last second of a minute only. -/
def LeapsLast (t : Time) : Prop := 1000000000 ≤ t.nanos → t.second = 59

instance (t : Time) : Decidable t.LeapsLast := inferInstanceAs (Decidable (_ → _))

/-- What the text of a time says: leap nanoseconds within a minute are those of the next second. -/
def shown (t : Time) : Time :=
  if h : t.LeapsLast then t
  else ⟨t.hour, t.minute, t.second + 1, t.nanos - 1000000000, by
    obtain ⟨hhour, hminute, hsecond, hnanos⟩ := t.valid
    simp only [LeapsLast] at h
    omega⟩

theorem shown_eq_iff {t : Time} : t.shown = t ↔ t.LeapsLast := by
  constructor
  · intro h
    by_contra hleap
    have hsecond := congrArg Time.second h
    simp only [shown, dif_neg hleap] at hsecond
    omega
  · intro h
    exact dif_pos h

/-- Both times have one text, so that no reader could tell them apart. -/
theorem text_shown (t : Time) : t.shown.text = t.text := by
  by_cases hleap : t.LeapsLast
  · rw [shown_eq_iff.2 hleap]
  · obtain ⟨-, -, -, hnanos⟩ := t.valid
    have hover : 1000000000 ≤ t.nanos ∧ t.second ≠ 59 := by
      simpa only [LeapsLast, Classical.not_imp] using hleap
    have hsecond : t.second + 1 + (t.nanos - 1000000000) / 1000000000 =
        t.second + t.nanos / 1000000000 := by omega
    have hfraction : (t.nanos - 1000000000) % 1000000000 = t.nanos % 1000000000 := by omega
    simp only [shown, dif_neg hleap, text, hsecond, hfraction]

/-- The fields that a time is written with give the time that its text says. -/
theorem ofFields?_fields (t : Time) :
    ofFields? t.hour t.minute (t.second + t.nanos / 1000000000) (t.nanos % 1000000000) =
      some t.shown := by
  obtain ⟨hhour, hminute, hsecond, hnanos⟩ := t.valid
  rcases Nat.lt_or_ge t.nanos 1000000000 with hlt | hge
  · have hleap : t.LeapsLast := fun hge => absurd hge (by omega)
    rw [Nat.div_eq_of_lt hlt, Nat.mod_eq_of_lt hlt, Nat.add_zero, ofFields?, if_neg (by omega),
      shown_eq_iff.2 hleap]
    exact dif_pos ⟨t.valid, hleap⟩
  · have hdiv : t.nanos / 1000000000 = 1 := by omega
    have hmod : t.nanos % 1000000000 = t.nanos - 1000000000 := by omega
    rw [ofFields?, hdiv, hmod]
    by_cases hfull : t.second = 59
    · have hleap : t.LeapsLast := fun _ => hfull
      rw [hfull, if_pos rfl, Nat.sub_add_cancel hge, ← hfull, shown_eq_iff.2 hleap]
      exact dif_pos ⟨t.valid, hleap⟩
    · have hleap : ¬ t.LeapsLast := fun h => hfull (h hge)
      rw [if_neg (by omega), shown, dif_neg hleap]
      exact dif_pos ⟨by omega, by omega⟩

/-- Hour, minute, second and fraction, in front of a text that does not go on with a digit or a
point. -/
theorem readParts?_text (t : Time) {r : List Char} (hr : Halts r)
    (hpoint : r.head? ≠ some '.') :
    ∃ r', readMinutes? (t.text ++ r) = some (t.hour, t.minute, r') ∧
      readSeconds? r' = some (t.second + t.nanos / 1000000000, t.nanos % 1000000000, r) := by
  obtain ⟨hhour, hminute, hsecond, hnanos⟩ := t.valid
  refine ⟨':' :: padded 2 (t.second + t.nanos / 1000000000) ++
    fractionText (t.nanos % 1000000000) ++ r, ?_, ?_⟩
  · have htext : t.text ++ r = padded 2 t.hour ++ ':' :: padded 2 t.minute ++
        (':' :: padded 2 (t.second + t.nanos / 1000000000) ++
          fractionText (t.nanos % 1000000000) ++ r) := by
      simp [text]
    rw [htext, readMinutes?_text hhour hminute]
  · exact readSeconds?_text (by omega) (Nat.mod_lt _ (by decide)) hr hpoint

/-- What the text of a time says is read, with leap seconds and every fraction. -/
theorem read?_text (t : Time) : read? t.text = some t.shown := by
  obtain ⟨r, hminutes, hseconds⟩ := readParts?_text t halts_nil (by decide)
  rw [List.append_nil] at hminutes
  simp only [read?, hminutes, hseconds, Option.bind_eq_bind, Option.bind_some, Option.getD_some,
    ofFields?_fields]
  exact if_pos rfl

end Time

namespace LocalTimestamp

open Calendar Text

/-- What the text of a timestamp says. -/
def shown (t : LocalTimestamp) : LocalTimestamp := ⟨t.date, t.time.shown⟩

theorem shown_eq_iff {t : LocalTimestamp} : t.shown = t ↔ t.time.LeapsLast := by
  obtain ⟨date, time⟩ := t
  simp [shown, Time.shown_eq_iff]

theorem read?_text (t : LocalTimestamp) : read? t.text = some t.shown := by
  obtain ⟨r, hminutes, hseconds⟩ := t.time.readParts?_text halts_nil (by decide)
  rw [List.append_nil] at hminutes
  rw [text, read?, Date.readPart?_text]
  simp only [Option.bind_eq_bind, Option.bind_some, readMark?_cons 'T' rfl, hminutes,
    hseconds, Time.ofFields?_fields]
  exact if_pos rfl

end LocalTimestamp

end RemoteTable
