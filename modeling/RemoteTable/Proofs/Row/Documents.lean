import Mathlib
import RemoteTable.Proofs.Outcome
import RemoteTable.Row.Basic

/-!
What documents say about rows. The rows of a body, the value of a field in an object and the row of
an object are told here by the form of the document alone, and what the readers of rows make of a
document is shown to be just that.
-/

namespace RemoteTable.Row

section bodies

variable {body : ByteArray} {r : Except BodyError (List JsonMembers)}

/-- The rows of a body: the elements of an array of objects, or one object by itself. Anything else
is no rows, for the first element that is no object or for the body as a whole. -/
inductive Splits (body : ByteArray) : Except BodyError (List JsonMembers) → Prop
  | rows {rows : List JsonMembers} (document : Json.ofBytes? body = some (.array (rows.map .object))) :
    Splits body (.ok rows)
  | row {o : JsonMembers} (document : Json.ofBytes? body = some (.object o)) : Splits body (.ok [o])
  | notJson (document : Json.ofBytes? body = none) : Splits body (.error .notJson)
  | element {before : List JsonMembers} {j : Json} {after : List Json}
      (document : Json.ofBytes? body = some (.array (before.map .object ++ j :: after)))
      (other : ∀ o, j ≠ .object o) : Splits body (.error (.elementNotObject before.length j))
  | notRows {j : Json} (document : Json.ofBytes? body = some j) (array : ∀ items, j ≠ .array items)
      (object : ∀ o, j ≠ .object o) : Splits body (.error (.notRows j))

theorem objectsFrom_object (i : Nat) (rows : List JsonMembers) (items : List Json) :
    objectsFrom i (rows.map .object ++ items) =
      (objectsFrom (i + rows.length) items).map (rows ++ ·) := by
  induction rows generalizing i with
  | nil =>
    simp only [List.map_nil, List.nil_append, List.length_nil, Nat.add_zero]
    cases objectsFrom i items <;> rfl
  | cons o rows ih =>
    have hplace : i + 1 + rows.length = i + (o :: rows).length := by
      simp only [List.length_cons]
      omega
    rw [List.map_cons, List.cons_append, objectsFrom, ih, hplace]
    cases objectsFrom (i + (o :: rows).length) items <;> rfl

theorem objectsFrom_other {j : Json} (hj : ∀ o, j ≠ .object o) (i : Nat) (items : List Json) :
    objectsFrom i (j :: items) = .error (.elementNotObject i j) := by
  cases j with
  | object o => exact absurd rfl (hj o)
  | _ => rfl

/-- A list of documents holds objects only, or there is a first one that is no object. -/
theorem objects_or_exists_first (items : List Json) : (∃ rows : List JsonMembers, items = rows.map .object) ∨
    ∃ (before : List JsonMembers) (j : Json) (after : List Json),
      items = before.map .object ++ j :: after ∧ ∀ o, j ≠ .object o := by
  induction items with
  | nil => exact .inl ⟨[], rfl⟩
  | cons j items ih =>
    by_cases hj : ∃ o, j = .object o
    · obtain ⟨o, rfl⟩ := hj
      rcases ih with ⟨rows, rfl⟩ | ⟨before, k, after, rfl, hk⟩
      · exact .inl ⟨o :: rows, rfl⟩
      · exact .inr ⟨o :: before, k, after, rfl, hk⟩
    · exact .inr ⟨[], j, items, rfl, fun o h => hj ⟨o, h⟩⟩

theorem Splits.objectsOf_eq (h : Splits body r) : objectsOf body = r := by
  unfold objectsOf
  cases h with
  | @rows rows document =>
    have hrows := objectsFrom_object 0 rows []
    rw [List.append_nil] at hrows
    simp only [document, hrows, objectsFrom, Except.map, List.append_nil]
  | row document => simp only [document]
  | notJson document => simp only [document]
  | element document other =>
    simp only [document, objectsFrom_object, objectsFrom_other other, Nat.zero_add, Except.map]
  | @notRows j document array object =>
    cases j with
    | array items => exact absurd rfl (array items)
    | object o => exact absurd rfl (object o)
    | _ => simp only [document]

theorem exists_splits (body : ByteArray) : ∃ r, Splits body r := by
  cases hdocument : Json.ofBytes? body with
  | none => exact ⟨_, .notJson hdocument⟩
  | some j =>
    cases j with
    | array items =>
      rcases objects_or_exists_first items with ⟨rows, rfl⟩ | ⟨before, j, after, rfl, hj⟩
      · exact ⟨_, .rows hdocument⟩
      · exact ⟨_, .element hdocument hj⟩
    | object o => exact ⟨_, .row hdocument⟩
    | _ => exact ⟨_, .notRows hdocument (by simp) (by simp)⟩

/-- A body is split into its rows. -/
theorem splits_objectsOf (body : ByteArray) : Splits body (objectsOf body) := by
  obtain ⟨r, h⟩ := exists_splits body
  rwa [h.objectsOf_eq]

theorem splits_iff : Splits body r ↔ objectsOf body = r :=
  ⟨Splits.objectsOf_eq, fun h => h ▸ splits_objectsOf body⟩

/-- The number of rows in a document. -/
def rowsIn : Json → Nat
  | .array items => if ∀ j ∈ items, j.kindName = "object" then items.length else 0
  | .object _ => 1
  | _ => 0

end bodies

section fields

variable {m : Entity} {o : JsonMembers} {f : Field} {fields : List Field}

/-- A name that is the column or the property of a field, up to case. -/
def Agrees (f : Field) (name : String) : Prop :=
  sameIgnoringCase name f.column = true ∨ sameIgnoringCase name f.name = true

/-- The document that an object holds for a field: the one under its column, and without one the
first under a name that agrees with the field. -/
inductive HeldFor (o : JsonMembers) (f : Field) : Option Json → Prop
  | column {j : Json} (lookup : o.lookup f.column = some j) : HeldFor o f (some j)
  | name {before after : JsonMembers} {name : String} {j : Json}
      (lookup : o.lookup f.column = none) (split : o = before ++ (name, j) :: after)
      (agrees : Agrees f name) (first : ∀ e ∈ before, ¬ Agrees f e.1) : HeldFor o f (some j)
  | nothing (lookup : o.lookup f.column = none) (others : ∀ e ∈ o, ¬ Agrees f e.1) :
    HeldFor o f none

theorem heldFor_memberFor (o : JsonMembers) (f : Field) : HeldFor o f (memberFor o f) := by
  unfold memberFor
  split
  next j hlookup => exact .column hlookup
  next hlookup =>
    cases hfind : o.find? fun e => sameIgnoringCase e.1 f.column || sameIgnoringCase e.1 f.name with
    | none =>
      refine .nothing hlookup fun e he => ?_
      simpa [Agrees] using List.find?_eq_none.1 hfind e he
    | some e =>
      obtain ⟨hagrees, before, after, hsplit, hfirst⟩ := List.find?_eq_some_iff_append.1 hfind
      apply HeldFor.name hlookup hsplit
      · simpa [Agrees] using hagrees
      · intro e' he'
        simpa [Agrees] using hfirst e' he'

/-- The value that an object gives a field, or the fault that it cannot be read. A field that the
object says nothing about is null. -/
inductive ReadsAs (m : Entity) (o : JsonMembers) (f : Field) : Except Fault Value → Prop
  | absent (held : HeldFor o f none) : ReadsAs m o f (.ok .null)
  | value {j : Json} {v : Value} (held : HeldFor o f (some j))
      (value : Value.ofJson f.kind j = .ok v) : ReadsAs m o f (.ok v)
  | bad {j : Json} {e : DecodeError} (held : HeldFor o f (some j))
      (value : Value.ofJson f.kind j = .error e) :
    ReadsAs m o f (.error (.badField .load m.name f.name e))

theorem readsAs_readField (m : Entity) (o : JsonMembers) (f : Field) :
    ReadsAs m o f (readField .load m o f) := by
  have hheld := heldFor_memberFor o f
  unfold readField
  split
  next h => exact .absent (h ▸ hheld)
  next j h =>
    cases hvalue : Value.ofJson f.kind j with
    | ok v => exact .value (h ▸ hheld) hvalue
    | error e => exact .bad (h ▸ hheld) hvalue

/-- The row that an object has for some fields, or the fault of the first field that cannot be
read. -/
inductive RowOf (m : Entity) (o : JsonMembers) (fields : List Field) : Except Fault Row → Prop
  | row {row : Row} (reads : ∀ f ∈ fields, ∃ v, ReadsAs m o f (.ok v) ∧ row.find? f.name = some v)
      (others : ∀ property, property ∉ fields.map Field.name → row.find? property = none) :
    RowOf m o fields (.ok row)
  | bad {before after : List Field} {f : Field} {fault : Fault}
      (split : fields = before ++ f :: after) (reads : ∀ g ∈ before, ∃ v, ReadsAs m o g (.ok v))
      (reading : ReadsAs m o f (.error fault)) : RowOf m o fields (.error fault)

/-- Some fields of an object are read into a row, one after another. -/
def readInto (m : Entity) (o : JsonMembers) (fields : List Field) (row : Row) : Except Fault Row :=
  fields.foldlM (fun r f => do
    let v ← readField .load m o f
    .ok (r.insert f.name v)) row

variable {row row' : Row}

theorem readInto_cons (m : Entity) (o : JsonMembers) (f : Field) (fields : List Field) (row : Row) :
    readInto m o (f :: fields) row =
      readField .load m o f >>= fun v => readInto m o fields (row.insert f.name v) := by
  rw [readInto, List.foldlM_cons]
  cases readField .load m o f <;> rfl

/-- Every other property keeps its value. -/
theorem find?_readInto {property : String} (h : readInto m o fields row = .ok row')
    (hother : property ∉ fields.map Field.name) : row'.find? property = row.find? property := by
  induction fields generalizing row with
  | nil =>
    cases h
    rfl
  | cons f fields ih =>
    rw [List.map_cons, List.mem_cons, not_or] at hother
    rw [readInto_cons] at h
    obtain ⟨v, -, h⟩ := Except.bind_eq_ok.1 h
    rw [ih h hother.2, Dict.find?_insert, if_neg hother.1]

/-- Every field that is read has its value in the row, if no two of them have one name. -/
theorem readsAs_of_readInto (hnames : ∀ f ∈ fields, ∀ g ∈ fields, f.name = g.name → f = g)
    (h : readInto m o fields row = .ok row') :
    ∀ f ∈ fields, ∃ v, ReadsAs m o f (.ok v) ∧ row'.find? f.name = some v := by
  induction fields generalizing row with
  | nil => simp
  | cons f fields ih =>
    rw [readInto_cons] at h
    obtain ⟨v, hread, h⟩ := Except.bind_eq_ok.1 h
    have htail : ∀ g ∈ fields, ∀ g' ∈ fields, g.name = g'.name → g = g' :=
      fun g hg g' hg' => hnames g (by simp [hg]) g' (by simp [hg'])
    have hfields := ih htail h
    refine List.forall_mem_cons.2 ⟨?_, hfields⟩
    by_cases hagain : f.name ∈ fields.map Field.name
    · -- A field of that name that is read later is the same field.
      obtain ⟨g, hg, hname⟩ := List.mem_map.1 hagain
      have heq : f = g := hnames f (by simp) g (by simp [hg]) hname.symm
      exact heq ▸ hfields g hg
    · have hvalue : row'.find? f.name = some v := by
        rw [find?_readInto h hagain, Dict.find?_insert, if_pos rfl]
      exact ⟨v, hread ▸ readsAs_readField m o f, hvalue⟩

/-- A row that is not read has a first field that cannot be read. -/
theorem exists_bad_of_readInto {fault : Fault} (h : readInto m o fields row = .error fault) :
    ∃ before f after, fields = before ++ f :: after ∧
      (∀ g ∈ before, ∃ v, ReadsAs m o g (.ok v)) ∧ ReadsAs m o f (.error fault) := by
  induction fields generalizing row with
  | nil => cases h
  | cons f fields ih =>
    have hf := readsAs_readField m o f
    rw [readInto_cons] at h
    rcases Except.bind_eq_error.1 h with hread | ⟨v, hread, h⟩
    · exact ⟨[], f, fields, rfl, by simp, hread ▸ hf⟩
    · obtain ⟨before, g, after, rfl, hbefore, hg⟩ := ih h
      exact ⟨f :: before, g, after, rfl, List.forall_mem_cons.2 ⟨⟨v, hread ▸ hf⟩, hbefore⟩, hg⟩

/-- An object is read as its row, if no two of the fields have one name. -/
theorem rowOf_ofObject (m : Entity) (o : JsonMembers)
    (hnames : ∀ f ∈ fields, ∀ g ∈ fields, f.name = g.name → f = g) :
    RowOf m o fields (ofObject m fields o) := by
  have hobject : ofObject m fields o = readInto m o fields Dict.empty := rfl
  rw [hobject]
  cases hrow : readInto m o fields Dict.empty with
  | ok row =>
    apply RowOf.row (readsAs_of_readInto hnames hrow)
    intro property hother
    rw [find?_readInto hrow hother, Dict.find?_empty]
  | error fault =>
    obtain ⟨before, f, after, hsplit, hbefore, hf⟩ := exists_bad_of_readInto hrow
    exact .bad hsplit hbefore hf

end fields

end RemoteTable.Row
