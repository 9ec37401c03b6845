import RemoteTable.Proofs.Calendar.Reading
import RemoteTable.Proofs.Number.Decimal
import RemoteTable.Proofs.Value.Encodings
import RemoteTable.Value.Printer
import RemoteTable.Value.Reader

/-!
Values survive a document: what is written of a value of a kind is read as that value again, unless
a time of day in it has a leap second within a minute, whose text is that of the second after.
-/

namespace RemoteTable.Value

/-- The values of a kind. A null is a value of every kind, a whole number fits the width of its
kind, and a document in its own right is not the null. -/
inductive Fits : Value → Kind → Prop
  | null (kind : Kind) : Fits .null kind
  | blob (bytes : List UInt8) : Fits (.blob bytes) .blob
  | bool (b : Bool) : Fits (.bool b) .bool
  | date (d : Date) : Fits (.date d) .date
  | decimal (d : Decimal) : Fits (.decimal d) .decimal
  | int16 {n : Int64} (low : Int16.minValue.toInt ≤ n.toInt)
      (high : n.toInt ≤ Int16.maxValue.toInt) : Fits (.int n) .int16
  | int32 {n : Int64} (low : Int32.minValue.toInt ≤ n.toInt)
      (high : n.toInt ≤ Int32.maxValue.toInt) : Fits (.int n) .int32
  | int64 (n : Int64) : Fits (.int n) .int64
  | json {j : Json} (h : j ≠ .null) : Fits (.json j) .json
  | text (s : String) : Fits (.text s) .text
  | time (t : Time) : Fits (.time t) .time
  | timestampLocal (t : LocalTimestamp) : Fits (.timestampLocal t) .timestampLocal
  | uuid (u : Uuid) : Fits (.uuid u) .uuid
  | list {items : List Value} {inner : Kind} (h : ∀ v ∈ items, Fits v inner) :
    Fits (.list items) (.list inner)

mutual

/-- The times of day in a value. -/
def times : Value → List Time
  | .time t => [t]
  | .timestamp t => [t.utc.time]
  | .timestampLocal t => [t.time]
  | .list items => itemsTimes items
  | _ => []

def itemsTimes : List Value → List Time
  | [] => []
  | v :: items => times v ++ itemsTimes items

end

mutual

/-- What the document of a value says: a leap second within a minute is the second after. -/
def shown : Value → Value
  | .time t => .time t.shown
  | .timestamp t => .timestamp ⟨t.utc.shown⟩
  | .timestampLocal t => .timestampLocal t.shown
  | .list items => .list (itemsShown items)
  | v => v

def itemsShown : List Value → List Value
  | [] => []
  | v :: items => shown v :: itemsShown items

end

mutual

theorem shown_eq_iff (v : Value) : v.shown = v ↔ ∀ t ∈ v.times, t.LeapsLast := by
  cases v with
  | time t => simp [shown, times, Time.shown_eq_iff]
  | timestamp t =>
    obtain ⟨utc⟩ := t
    simp [shown, times, LocalTimestamp.shown_eq_iff]
  | timestampLocal t => simp [shown, times, LocalTimestamp.shown_eq_iff]
  | list items => rw [shown, times, list.injEq, itemsShown_eq_iff items]
  | _ => simp [shown, times]

theorem itemsShown_eq_iff (items : List Value) :
    itemsShown items = items ↔ ∀ t ∈ itemsTimes items, t.LeapsLast := by
  cases items with
  | nil => simp [itemsShown, itemsTimes]
  | cons v items =>
    rw [itemsShown, itemsTimes, List.forall_mem_append, List.cons.injEq, shown_eq_iff v,
      itemsShown_eq_iff items]

end

/-- A text that its reader takes for a value gives that value. -/
theorem ofText_wireText {kind : Kind} {read : List Char → Option Value} {v w : Value}
    (h : read v.chars = some w) : ofText kind read (.string v.wireText) = .ok w := by
  simp only [ofText, wireText, String.toList_ofList, h]

theorem ofInteger_toInt {kind : Kind} {low high : Int} {n : Int64} (hlow : low ≤ n.toInt)
    (hhigh : n.toInt ≤ high) : ofInteger kind low high (.int n.toInt) = .ok (.int n) := by
  rw [ofInteger, if_pos ⟨hlow, hhigh⟩, Int64.ofInt_toInt]

theorem decimalOfJson_text (d : Decimal) :
    decimalOfJson .decimal (.string (wireText (.decimal d))) = .ok (.decimal d) := by
  simp only [decimalOfJson, wireText, chars, String.toList_ofList, Decimal.read?_text]

theorem mapM_itemsToJson {read : Json → Except DecodeError Value} {items : List Value}
    (h : ∀ v ∈ items, read (toJson v) = .ok v.shown) :
    (itemsToJson items).mapM read = .ok (itemsShown items) := by
  induction items with
  | nil => rfl
  | cons v items ih =>
    obtain ⟨hv, hitems⟩ := List.forall_mem_cons.1 h
    rw [itemsToJson, List.mapM_cons, hv, ih hitems]
    rfl

/-- A value that fits its kind is read from its document as it is shown there. -/
theorem ofJson_toJson_shown {v : Value} {kind : Kind} (h : Fits v kind) :
    ofJson kind (toJson v) = .ok v.shown := by
  induction h with
  | null kind => simp only [toJson, ofJson, shown]
  | blob bytes =>
    simp only [toJson, ofJson, shown]
    exact ofText_wireText (by simp [chars, Text.Base64.decode_encode])
  | bool b => simp only [toJson, ofJson, shown]
  | date d =>
    simp only [toJson, ofJson, shown]
    exact ofText_wireText (by simp [chars, Date.read?_text])
  | decimal d =>
    simp only [toJson, ofJson, shown]
    exact decimalOfJson_text d
  | int16 low high =>
    simp only [toJson, ofJson, shown]
    exact ofInteger_toInt low high
  | int32 low high =>
    simp only [toJson, ofJson, shown]
    exact ofInteger_toInt low high
  | int64 n =>
    simp only [toJson, ofJson, shown]
    exact ofInteger_toInt n.minValue_le_toInt n.toInt_le
  | @json j h =>
    cases j with
    | null => exact absurd rfl h
    | _ => simp only [toJson, ofJson, shown]
  | text s => simp only [toJson, ofJson, shown]
  | time t =>
    simp only [toJson, ofJson, shown]
    exact ofText_wireText (by simp [chars, Time.read?_text])
  | timestampLocal t =>
    simp only [toJson, ofJson, shown]
    exact ofText_wireText (by simp [chars, LocalTimestamp.read?_text])
  | uuid u =>
    simp only [toJson, ofJson, shown]
    exact ofText_wireText (by simp [chars, Uuid.read?_text])
  | @list items inner _ ih =>
    simp only [toJson, ofJson, mapM_itemsToJson ih, shown]
    rfl

/-- A value that fits its kind is read back from its document, a decimal with its mantissa and its
scale, just if the times of day in it have no leap second within a minute. -/
theorem ofJson_toJson_iff {v : Value} {kind : Kind} (h : Fits v kind) :
    ofJson kind (toJson v) = .ok v ↔ ∀ t ∈ v.times, t.LeapsLast := by
  rw [ofJson_toJson_shown h, Except.ok.injEq]
  exact shown_eq_iff v

/-- A leap second at the end of the last year, and a null, in a list. -/
theorem ofJson_toJson_leap_second :
    let leap : LocalTimestamp := ⟨⟨262142, 12, 31, by decide⟩, ⟨23, 59, 59, 1999999999, by decide⟩⟩
    let v : Value := .list [.timestampLocal leap, .null]
    Fits v (.list .timestampLocal) ∧ (∀ t ∈ v.times, t.LeapsLast) ∧
      toJson v = .array [.string "+262142-12-31T23:59:60.999999999", .null] ∧
      ofJson (.list .timestampLocal) (toJson v) = .ok v := by
  intro leap v
  have hfits : Fits v (.list .timestampLocal) := .list (by
    simp only [List.forall_mem_cons]
    exact ⟨.timestampLocal leap, .null .timestampLocal, by simp⟩)
  have hleaps : ∀ t ∈ v.times, t.LeapsLast := by
    simp [v, leap, times, itemsTimes, Time.LeapsLast]
  have htext : String.ofList leap.text = "+262142-12-31T23:59:60.999999999" := by decide +kernel
  refine ⟨hfits, hleaps, ?_, (ofJson_toJson_iff hfits).2 hleaps⟩
  simp only [v, toJson, itemsToJson, wireText, chars, htext]

/-- A leap second after the twenty-third second of its minute has the document of the twenty-fourth
second, and that is what is read. -/
theorem ofJson_toJson_leap_within :
    let t : Time := ⟨20, 19, 23, 1000000000, by decide⟩
    let u : Time := ⟨20, 19, 24, 0, by decide⟩
    Fits (.time t) .time ∧ toJson (.time t) = .string "20:19:24" ∧
      toJson (.time u) = toJson (.time t) ∧ ofJson .time (toJson (.time t)) = .ok (.time u) ∧
      ofJson .time (toJson (.time t)) ≠ .ok (.time t) := by
  intro t u
  have hshown : t.shown = u := by decide +kernel
  have htext : String.ofList t.text = "20:19:24" := by decide +kernel
  have hread : ofJson .time (toJson (.time t)) = .ok (.time u) := by
    rw [ofJson_toJson_shown (.time t), shown, hshown]
  refine ⟨.time t, ?_, ?_, hread, ?_⟩
  · simp only [toJson, wireText, chars, htext]
  · simp only [toJson, wireText, chars, ← hshown, Time.text_shown]
  · rw [hread]
    simp [t, u]

end RemoteTable.Value
