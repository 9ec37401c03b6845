import RemoteTable.Proofs.Calendar.Reading
import RemoteTable.Value.Printer
import RemoteTable.Value.Reader

/-!
Points in universal time on the wire. The reader of the interchange form takes a year of four digits
only, and the reader of local timestamps stops at the letter Z, so the text of a point in time is
read if its year has four digits and no sign, and otherwise refused.
-/

namespace RemoteTable

namespace Calendar

open Text

theorem readExactly?_padded {width n : Nat} (hwidth : 0 < width) (h : n < 10 ^ width)
    (r : List Char) : readExactly? width (padded width n ++ r) = some (n, r) := by
  have hlength := length_padded_of_lt hwidth h
  have htake := takeDigits_append (isDigits_padded width n) r
  rw [hlength] at htake
  simp [readExactly?, htake, hlength]

theorem readExactly?_eq_none {width : Nat} (hwidth : 0 < width) {c : Char}
    (hc : c.isDigit = false) (r : List Char) : readExactly? width (c :: r) = none := by
  obtain ⟨k, rfl⟩ := Nat.exists_eq_succ_of_ne_zero hwidth.ne'
  simp [readExactly?, takeDigits, hc]

/-- The step of a reader that has found something. -/
theorem some_bind {α β : Type} (a : α) (f : α → Option β) : (some a >>= f) = f a := rfl

theorem readChar?_cons (mark : Char) (r : List Char) : readChar? mark (mark :: r) = some r := by
  simp [readChar?]

end Calendar

namespace Timestamp

open Calendar Text

/-- A year of four digits without a sign. -/
def InFourDigits (t : Timestamp) : Prop := 0 ≤ t.utc.date.year ∧ t.utc.date.year ≤ 9999

instance (t : Timestamp) : Decidable t.InFourDigits := inferInstanceAs (Decidable (_ ∧ _))

/-- What the text of a point in time says. -/
def shown (t : Timestamp) : Timestamp := ⟨t.utc.shown⟩

theorem shown_eq_iff {t : Timestamp} : t.shown = t ↔ t.utc.time.LeapsLast := by
  obtain ⟨utc⟩ := t
  simp [shown, LocalTimestamp.shown_eq_iff]

theorem shift?_zero (t : LocalTimestamp) : t.shift? 0 = some t := by
  obtain ⟨hhour, hminute, -⟩ := t.time.valid
  have hdays : ((t.time.hour * 60 + t.time.minute : Nat) : Int) / 1440 = 0 := by omega
  have hrest : (((t.time.hour * 60 + t.time.minute : Nat) : Int) % 1440).toNat =
      t.time.hour * 60 + t.time.minute := by omega
  have hhours : (t.time.hour * 60 + t.time.minute) / 60 = t.time.hour := by omega
  have hminutes : (t.time.hour * 60 + t.time.minute) % 60 = t.time.minute := by omega
  simp only [LocalTimestamp.shift?, Int.add_zero, hdays, Time.atMinute, hrest, hhours, hminutes,
    if_true, Option.bind_eq_bind, Option.bind_some]

/-- Fields of fixed width, the fraction of a second and the letter Z. -/
theorem readZoned?_fields {year month day hour minute second nanos : Nat} {fraction : List Char}
    (hyear : year < 10 ^ 4) (hmonth : month < 10 ^ 2) (hday : day < 10 ^ 2)
    (hhour : hour < 10 ^ 2) (hminute : minute < 10 ^ 2) (hsecond : second < 10 ^ 2)
    (hfraction : Time.readFraction? (fraction ++ ['Z']) = some (nanos, ['Z'])) :
    readZoned? (padded 4 year ++ '-' :: (padded 2 month ++ '-' :: (padded 2 day ++ 'T' ::
        (padded 2 hour ++ ':' :: (padded 2 minute ++ ':' :: (padded 2 second ++
          (fraction ++ ['Z']))))))) =
      (Date.make? year month day).bind fun date =>
        (Time.ofFields? hour minute second nanos).bind fun time =>
          (LocalTimestamp.shift? ⟨date, time⟩ 0).map Timestamp.mk := by
  have hyears := readExactly?_padded (by decide) hyear
  have hmonths := readExactly?_padded (by decide) hmonth
  have hdays := readExactly?_padded (by decide) hday
  have hhours := readExactly?_padded (by decide) hhour
  have hminutes := readExactly?_padded (by decide) hminute
  have hseconds := readExactly?_padded (by decide) hsecond
  have hzone : readZone? ['Z'] = some 0 := by decide
  rw [readZoned?, hyears]
  simp only [some_bind, readChar?_cons, hmonths, hdays, hhours, hminutes, hseconds, hfraction,
    hzone]
  rfl

/-- What date, time and the letter Z say is read, with leap seconds and every fraction. -/
theorem readZoned?_text {t : Timestamp} (h : t.InFourDigits) :
    readZoned? t.text = some t.shown := by
  obtain ⟨hlow, hhigh⟩ := h
  obtain ⟨-, -, -, hmonth, -, -⟩ := t.utc.date.valid
  obtain ⟨hhour, hminute, hsecond, hnanos⟩ := t.utc.time.valid
  have hday := t.utc.date.day_le
  have hyear : Date.yearText t.utc.date.year = padded 4 t.utc.date.year.natAbs := by
    rw [Date.yearText, if_neg (by omega), if_neg (by omega)]
  have hyearInt : (t.utc.date.year.natAbs : Int) = t.utc.date.year := by omega
  have htext : t.text = padded 4 t.utc.date.year.natAbs ++ '-' :: (padded 2 t.utc.date.month ++
      '-' :: (padded 2 t.utc.date.day ++ 'T' :: (padded 2 t.utc.time.hour ++
      ':' :: (padded 2 t.utc.time.minute ++
      ':' :: (padded 2 (t.utc.time.second + t.utc.time.nanos / 1000000000) ++
      (Time.fractionText (t.utc.time.nanos % 1000000000) ++ ['Z'])))))) := by
    simp [text, LocalTimestamp.text, Date.text, Time.text, hyear]
  have hfraction := Time.readFraction?_fractionText (r := ['Z'])
    (Nat.mod_lt t.utc.time.nanos (show 0 < 1000000000 by decide)) (halts_cons rfl []) (by decide)
  rw [htext, readZoned?_fields (by omega) (by omega) (by omega) (by omega) (by omega) (by omega)
    hfraction, hyearInt, Date.make?_self]
  simp only [Option.bind_some, Time.ofFields?_fields, shift?_zero, Option.map_some]
  rfl

/-- A sign, or a fifth digit, is not taken for a year. -/
theorem readZoned?_eq_none {t : Timestamp} (h : ¬ t.InFourDigits) : readZoned? t.text = none := by
  obtain ⟨sign, r, hsign, htext⟩ : ∃ sign r, sign.isDigit = false ∧ t.text = sign :: r := by
    unfold InFourDigits at h
    by_cases hneg : t.utc.date.year < 0
    · exact ⟨'-', _, rfl, by
        simp only [text, LocalTimestamp.text, Date.text, Date.yearText, if_pos hneg]; rfl⟩
    · have hlong : 9999 < t.utc.date.year := by omega
      exact ⟨'+', _, rfl, by
        simp only [text, LocalTimestamp.text, Date.text, Date.yearText, if_neg hneg, if_pos hlong]
        rfl⟩
  rw [htext, readZoned?, readExactly?_eq_none (by decide) hsign]
  rfl

/-- What a local timestamp is followed by is no part of it. -/
theorem read?_local (t : Timestamp) : LocalTimestamp.read? t.text = none := by
  obtain ⟨r, hminutes, hseconds⟩ :=
    t.utc.time.readParts?_text (r := ['Z']) (halts_cons rfl []) (by decide)
  have htext : t.text = t.utc.date.text ++ 'T' :: (t.utc.time.text ++ ['Z']) := by
    simp [text, LocalTimestamp.text]
  rw [htext, LocalTimestamp.read?, Date.readPart?_text]
  simp only [Option.bind_eq_bind, Option.bind_some, readMark?_cons 'T' rfl, hminutes, hseconds,
    Time.ofFields?_fields]
  exact if_neg (by decide)

/-- A text is read just if its year has four digits. -/
theorem read?_text (t : Timestamp) :
    read? t.text = if t.InFourDigits then some t.shown else none := by
  split
  next h => simp only [read?, readZoned?_text h]
  next h => simp only [read?, readZoned?_eq_none h, read?_local, Option.map_none]

end Timestamp

namespace Value

/-- The text of a point in time is read if the year has four digits and refused if not. The point
in time survives its document just if it has such a year and no leap second within a minute. -/
theorem ofJson_toJson_timestamp (t : Timestamp) :
    ofJson .timestamp (toJson (.timestamp t)) =
        (if t.InFourDigits then .ok (.timestamp t.shown)
        else .error (.unreadable .timestamp (wireText (.timestamp t)))) ∧
      (ofJson .timestamp (toJson (.timestamp t)) = .ok (.timestamp t) ↔
        t.InFourDigits ∧ t.utc.time.LeapsLast) := by
  have hread : ofJson .timestamp (toJson (.timestamp t)) =
      if t.InFourDigits then .ok (.timestamp t.shown)
      else .error (.unreadable .timestamp (wireText (.timestamp t))) := by
    simp only [toJson, ofJson, ofText, wireText, chars, String.toList_ofList, Timestamp.read?_text]
    by_cases h : t.InFourDigits
    · simp only [if_pos h, Option.map_some]
    · simp only [if_neg h, Option.map_none]
  refine ⟨hread, ?_⟩
  rw [hread]
  by_cases h : t.InFourDigits
  · simp [h, Timestamp.shown_eq_iff]
  · simp [h]

/-- The first hour of the year 10000. -/
def newYear : Timestamp := ⟨⟨⟨10000, 1, 1, by decide⟩, ⟨0, 59, 59, 0, by decide⟩⟩⟩

/-- A text of a year of four digits, west of Greenwich, is read as a point in time whose own text
is refused. -/
theorem newYear_refused :
    ofJson .timestamp (.string "9999-12-31T23:59:59-01:00") = .ok (.timestamp newYear) ∧
      toJson (.timestamp newYear) = .string "+10000-01-01T00:59:59Z" ∧
      ofJson .timestamp (.string "+10000-01-01T00:59:59Z") =
        .error (.unreadable .timestamp "+10000-01-01T00:59:59Z") := by
  have hread : Timestamp.read? "9999-12-31T23:59:59-01:00".toList = some newYear := by
    decide +kernel
  have htext : String.ofList newYear.text = "+10000-01-01T00:59:59Z" := by decide +kernel
  have hrefused : Timestamp.read? "+10000-01-01T00:59:59Z".toList = none := by decide +kernel
  refine ⟨?_, ?_, ?_⟩
  · simp only [ofJson, ofText, hread, Option.map_some]
  · simp only [toJson, wireText, chars, htext]
  · simp only [ofJson, ofText, hrefused, Option.map_none]

end Value

end RemoteTable
