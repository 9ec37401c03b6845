import Mathlib
import RemoteTable.Load.Cursor
import RemoteTable.Proofs.Distinct
import RemoteTable.Proofs.Query.Shaping

/-!
Projections that are pushed down: a prepared projection asks for few columns, and makes of what they
hold what the projection makes of the whole row.
-/

namespace RemoteTable

/-- The value that an object holds for a field, under its column. -/
def Field.heldIn (f : Field) (o : JsonMembers) : Option Value :=
  (o.lookup f.column).bind fun j => (Value.ofJson f.kind j).toOption

/-- The object holds every column of the entity, with a value of its kind. -/
def Entity.Holds (m : Entity) (o : JsonMembers) : Prop := ∀ f ∈ m.fields, (f.heldIn o).isSome

variable {m : Entity} {f : Field} {o : JsonMembers} {v : Value}

theorem Field.heldIn_eq_some : f.heldIn o = some v ↔
    ∃ j, o.lookup f.column = some j ∧ Value.ofJson f.kind j = .ok v := by
  rw [heldIn, Option.bind_eq_some_iff]
  apply exists_congr
  intro j
  cases Value.ofJson f.kind j <;> simp [Except.toOption]

namespace Row

theorem readField_of_heldIn (origin : Origin) (h : f.heldIn o = some v) :
    readField origin m o f = .ok v := by
  obtain ⟨j, hj, hv⟩ := Field.heldIn_eq_some.1 h
  rw [readField, memberFor, hj]
  exact Except.mapError_eq_ok.2 hv

/-- Some fields are read into a row, which keeps what it says of other properties. -/
theorem exists_foldlM_readField {fields : List Field}
    (hfirst : ∀ f ∈ fields, m.field? f.name = some f)
    (hheld : ∀ f ∈ fields, (f.heldIn o).isSome) (row : Row) :
    ∃ row', fields.foldlM (fun r f => do
        let v ← readField .load m o f
        .ok (r.insert f.name v)) row = .ok row' ∧ ∀ property, row'.find? property =
      if property ∈ fields.map Field.name then (m.field? property).bind (·.heldIn o)
      else row.find? property := by
  induction fields generalizing row with
  | nil => exact ⟨row, rfl, by simp⟩
  | cons f fields ih =>
    obtain ⟨v, hv⟩ := Option.isSome_iff_exists.1 (hheld f (by simp))
    obtain ⟨row', hrow', hfind⟩ :=
      ih (fun f hf => hfirst f (by simp [hf])) (fun f hf => hheld f (by simp [hf]))
        (row.insert f.name v)
    refine ⟨row', ?_, ?_⟩
    · rw [List.foldlM_cons, readField_of_heldIn .load hv]
      exact hrow'
    · intro property
      rw [hfind property, Dict.find?_insert]
      by_cases hname : property = f.name
      · subst hname
        simp [hfirst f (by simp), hv]
      · simp [hname]

end Row

namespace PreparedProjection

/-- The part of an object that is asked for. -/
def cut (c : PreparedProjection) (o : JsonMembers) : JsonMembers :=
  if c.columns.isEmpty then o else o.filter (fun e => c.columns.contains e.1)

variable {c : PreparedProjection}

theorem lookup_filter_fst {α : Type} {names : List String} {k : String} (hk : k ∈ names)
    (l : List (String × α)) : (l.filter (fun e => names.contains e.1)).lookup k = l.lookup k := by
  induction l with
  | nil => rfl
  | cons e l ih =>
    rw [Dict.lookup_cons_eq_ite]
    by_cases he : k = e.1
    · subst he
      simp [hk, Dict.lookup_cons_eq_ite]
    · rw [if_neg he, List.filter_cons]
      split
      · rw [Dict.lookup_cons_eq_ite, if_neg he, ih]
      · exact ih

theorem field?_of_mem_fields (hf : f ∈ c.fields m) :
    f.name ∈ c.properties ∧ m.field? f.name = some f := by
  obtain ⟨property, hproperty, hfield⟩ := List.mem_filterMap.1 hf
  have hname : f.name = property := by simpa using List.find?_some hfield
  rw [hname]
  exact ⟨hproperty, hfield⟩

theorem mem_map_name_fields {property : String} :
    property ∈ (c.fields m).map Field.name ↔
      property ∈ c.properties ∧ (m.field? property).isSome := by
  rw [List.mem_map]
  constructor
  · intro h
    obtain ⟨f, hf, rfl⟩ := h
    obtain ⟨hproperty, hfield⟩ := field?_of_mem_fields hf
    exact ⟨hproperty, by rw [hfield]; rfl⟩
  · intro h
    obtain ⟨hproperty, hfield⟩ := h
    obtain ⟨f, hf⟩ := Option.isSome_iff_exists.1 hfield
    exact ⟨f, List.mem_filterMap.2 ⟨property, hproperty, hf⟩, by simpa using List.find?_some hf⟩

/-- The row that a projection reads has its properties, with the values that are held for them. -/
theorem exists_ofObject (hheld : ∀ f ∈ c.fields m, (f.heldIn o).isSome) :
    ∃ row, Row.ofObject m (c.fields m) o = .ok row ∧ ∀ property, row.find? property =
      if property ∈ c.properties then (m.field? property).bind (·.heldIn o) else none := by
  obtain ⟨row, hrow, hfind⟩ := Row.exists_foldlM_readField
    (fun f hf => (field?_of_mem_fields hf).2) hheld Dict.empty
  refine ⟨row, hrow, fun property => ?_⟩
  rw [hfind property, Dict.find?_empty]
  simp only [mem_map_name_fields]
  cases m.field? property <;> simp

theorem heldIn_cut (hf : f.column ∈ c.columns) : f.heldIn (c.cut o) = f.heldIn o := by
  have hcolumns : c.columns.isEmpty = false := by
    cases h : c.columns with
    | nil => simp [h] at hf
    | cons => rfl
  rw [Field.heldIn, Field.heldIn, cut, hcolumns, if_neg Bool.false_ne_true, lookup_filter_fst hf]

theorem isSome_heldIn (ho : m.Holds o) (hf : f ∈ c.fields m) : (f.heldIn o).isSome :=
  ho f (List.mem_of_find?_eq_some (field?_of_mem_fields hf).2)

/-- The whole row has all properties, with the values that are held for them. -/
theorem exists_ofObject_entity (ho : m.Holds o) :
    ∃ row, Row.ofObject m ((entity m).fields m) o = .ok row ∧
      ∀ property, row.find? property = (m.field? property).bind (·.heldIn o) := by
  obtain ⟨row, hrow, hfind⟩ :=
    exists_ofObject (c := .entity m) fun f hf => isSome_heldIn ho hf
  refine ⟨row, hrow, fun property => ?_⟩
  rw [hfind property]
  split
  next => rfl
  next hproperty =>
    have hfield : m.field? property = none := by
      apply List.find?_eq_none.2
      intro f hf hname
      exact hproperty (List.mem_map.2 ⟨f, hf, by simpa using hname⟩)
    rw [hfield]
    rfl

end PreparedProjection

namespace Projection

variable {p : Projection} {c : PreparedProjection}

theorem mem_columns_narrow (hf : f ∈ (p.narrow m).fields m) : f.column ∈ (p.narrow m).columns := by
  obtain ⟨hproperty, hfield⟩ := PreparedProjection.field?_of_mem_fields hf
  apply List.mem_eraseDups.2
  apply List.mem_filterMap.2
  exact ⟨f.name, hproperty, by rw [Entity.column?, hfield]; rfl⟩

/-- The row of the named columns has what the parts of the projection read of the whole row. -/
theorem exists_ofObject_narrow {row : Row} (ho : m.Holds o) (hsubject : .subject ∉ p.parts)
    (hrow : ∀ property, row.find? property = (m.field? property).bind (·.heldIn o)) :
    ∃ row', Row.ofObject m ((p.narrow m).fields m) ((p.narrow m).cut o) = .ok row' ∧
      ∀ part ∈ p.parts, part.SameIn row' row := by
  have hcut : ∀ f ∈ (p.narrow m).fields m, f.heldIn ((p.narrow m).cut o) = f.heldIn o :=
    fun f hf => PreparedProjection.heldIn_cut (mem_columns_narrow hf)
  obtain ⟨row', hrow', hfind⟩ := PreparedProjection.exists_ofObject fun f hf => by
    rw [hcut f hf]
    exact PreparedProjection.isSome_heldIn ho hf
  refine ⟨row', hrow', fun part hpart => ?_⟩
  cases part with
  | subject => exact absurd hpart hsubject
  | column property =>
    have hproperty : property ∈ (p.narrow m).properties :=
      List.mem_eraseDups.2 (mem_named.2 hpart)
    rw [SameIn, Row.value, Row.value, hrow, hfind, if_pos hproperty]
    cases hfield : m.field? property with
    | none => rfl
    | some f =>
      have hf : f ∈ (p.narrow m).fields m := List.mem_filterMap.2 ⟨property, hproperty, hfield⟩
      rw [Option.bind_some, Option.bind_some, hcut f hf]
  | _ => trivial

/-- A prepared projection asks for the columns that the projection names, each of them once, or for
all if it needs the subject, and makes of them what the projection makes of the whole row. -/
structure PushedDown (m : Entity) (p : Projection) (c : PreparedProjection) : Prop where
  nodup : c.columns.Nodup
  columns : .subject ∉ p.parts → c.columns = (p.named.filterMap m.column?).eraseDups
  all : .subject ∈ p.parts → c.columns = []
  faithful : ∀ (q : Query) (e : Endpoint) (bag : Bag) (o : JsonMembers), m.Holds o → ∃ row,
    (Cursor.start ⟨m, q, .entity m⟩ e bag).shape o = .ok (.entity row) ∧
      (∀ property, row.find? property = (m.field? property).bind (·.heldIn o)) ∧
      (Cursor.start ⟨m, q, c⟩ e bag).shape (c.cut o) = p.shape row bag ∧
      p.Evaluates row bag (p.shape row bag)

theorem pushedDown_whole (h : .subject ∈ p.parts) : PushedDown m p (.whole m p) := by
  constructor
  · exact List.nodup_nil
  · exact fun hsubject => absurd h hsubject
  · exact fun _ => rfl
  · intro q e bag o ho
    obtain ⟨row, hrow, hfind⟩ := PreparedProjection.exists_ofObject_entity ho
    refine ⟨row, ?_, hfind, ?_, evaluates_shape p row bag⟩
    · exact Except.bind_eq_ok.2 ⟨row, hrow, rfl⟩
    · exact congrArg (· >>= fun row => p.shape row bag) hrow

theorem pushedDown_narrow (h : .subject ∉ p.parts) : PushedDown m p (p.narrow m) := by
  constructor
  · exact List.nodup_eraseDups _
  · exact fun _ => List.eraseDups_filterMap_eraseDups _ _
  · exact fun hsubject => absurd hsubject h
  · intro q e bag o ho
    obtain ⟨row, hrow, hfind⟩ := PreparedProjection.exists_ofObject_entity ho
    obtain ⟨row', hrow', hsame⟩ := exists_ofObject_narrow ho h hfind
    refine ⟨row, ?_, hfind, ?_, evaluates_shape p row bag⟩
    · exact Except.bind_eq_ok.2 ⟨row, hrow, rfl⟩
    · rw [← shape_congr p hsame]
      exact congrArg (· >>= fun row => p.shape row bag) hrow'

/-- A projection is pushed down faithfully, unless it names a property that is not mapped. -/
theorem prepare_pushedDown (m : Entity) (p : Projection) :
    ((∃ x, p.prepare m = .error x) ↔
      ∃ property, .column property ∈ p.parts ∧ m.field? property = none) ∧
    ∀ c, p.prepare m = .ok c → PushedDown m p c := by
  constructor
  · rw [← findSome?_unmapped?]
    simp only [prepare_eq_error]
    constructor
    · intro h
      obtain ⟨-, property, hproperty, -⟩ := h
      exact ⟨property, hproperty⟩
    · intro h
      obtain ⟨property, hproperty⟩ := h
      exact ⟨_, property, hproperty, rfl⟩
  · intro c hc
    obtain ⟨-, ⟨hsubject, rfl⟩ | ⟨hsubject, rfl⟩⟩ := prepare_eq_ok.1 hc
    · exact pushedDown_whole hsubject
    · exact pushedDown_narrow hsubject

/-- Members, who are shown by their names. -/
def member : Entity :=
  ⟨"Member", "members", [⟨"Name", "name", .text, false, false⟩, ⟨"Age", "age", .int32, false, true⟩,
    ⟨"Label", "name", .text, false, false⟩, ⟨"Active", "is_active", .bool, false, false⟩], [], []⟩

def card : Projection :=
  .record (some "Card")
    [("title", .column "Label"), ("line", .tuple [.column "Name", .param "since", .column "Age"])]

def ann : JsonMembers :=
  [("age", .int 30), ("is_active", .bool true), ("name", .string "Ann"), ("note", .null)]

/-- Two properties of one column are asked for once, and both have its value. -/
theorem pushedDown_card : member.Holds ann ∧ ∃ c, card.prepare member = .ok c ∧
    c.columns = ["name", "age"] ∧ c.cut ann = [("age", .int 30), ("name", .string "Ann")] ∧
    (Cursor.start ⟨member, .ofTable "members", c⟩
        (.ofUrl ⟨"http", "", "", some (.name "localhost"), none, .segments [""], none, none⟩)
        (.ofList [("since", .int 7)])).shape (c.cut ann) =
      .ok (.record (some "Card") [("title", .value (.text "Ann")),
        ("line", .tuple [.value (.text "Ann"), .value (.int 7), .value (.int 30)])]) := by
  have hholds : member.Holds ann := by
    intro f hf
    simp only [member, List.mem_cons, List.not_mem_nil, or_false] at hf
    rcases hf with rfl | rfl | rfl | rfl <;> cbv
  have hprepare : card.prepare member = .ok (card.narrow member) := by cbv
  obtain ⟨row, -, hrow, hshape, -⟩ := ((prepare_pushedDown member card).2 _ hprepare).faithful
    (.ofTable "members")
    (.ofUrl ⟨"http", "", "", some (.name "localhost"), none, .segments [""], none, none⟩)
    (.ofList [("since", .int 7)]) ann hholds
  refine ⟨hholds, _, hprepare, by cbv, by cbv, ?_⟩
  have hname : row.value "Name" = .text "Ann" := by
    rw [Row.value, hrow]
    cbv
  have hlabel : row.value "Label" = .text "Ann" := by
    rw [Row.value, hrow]
    cbv
  have hage : row.value "Age" = .int 30 := by
    rw [Row.value, hrow]
    cbv
  have hsince : Bag.valueOf (.ofList [("since", .int 7)]) "since" = .ok (.int 7) := by cbv
  rw [hshape]
  simp [card, shape, shapeFields, shapeItems, hname, hlabel, hage, hsince, bind, Except.bind,
    Except.map]

end Projection

end RemoteTable
