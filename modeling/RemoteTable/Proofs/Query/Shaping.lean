import Mathlib
import RemoteTable.Load.Cursor
import RemoteTable.Proofs.Outcome

/-!
Projections by their parts: what a projection reads, what it makes of a row, and why it fails is
determined by the properties and parameters that stand in it.
-/

namespace RemoteTable

namespace Projection

mutual

/-- The projection with everything that it is made of, in order. -/
def parts : Projection → List Projection
  | .tuple items => .tuple items :: partsOfItems items
  | .record typeName fields => .record typeName fields :: partsOfFields fields
  | .construct typeName args => .construct typeName args :: partsOfItems args
  | p => [p]

def partsOfItems : List Projection → List Projection
  | [] => []
  | p :: r => parts p ++ partsOfItems r

def partsOfFields : List (String × Projection) → List Projection
  | [] => []
  | (_, p) :: r => parts p ++ partsOfFields r

end

/-- The property that a part names. -/
def property? : Projection → Option String
  | .column property => some property
  | _ => none

/-- The properties that a projection names, in order. -/
def named (p : Projection) : List String := p.parts.filterMap property?

/-- What a projection makes of a row. -/
inductive Makes (row : Row) (bag : Bag) : Projection → Shape → Prop
  | subject : Makes row bag .subject (.entity row)
  | column (property : String) : Makes row bag (.column property) (.value (row.value property))
  | const (v : Value) : Makes row bag (.const v) (.value v)
  | param {name : String} {v : Value} (value : bag.find? name = some v) :
      Makes row bag (.param name) (.value v)
  | tuple {items : List Projection} {shapes : List Shape}
      (members : List.Forall₂ (Makes row bag) items shapes) :
      Makes row bag (.tuple items) (.tuple shapes)
  | record {typeName : Option String} {fields : List (String × Projection)}
      {shapes : List (String × Shape)} (names : fields.map Prod.fst = shapes.map Prod.fst)
      (members : List.Forall₂ (Makes row bag) (fields.map Prod.snd) (shapes.map Prod.snd)) :
      Makes row bag (.record typeName fields) (.record typeName shapes)
  | construct {typeName : String} {args : List Projection} {shapes : List Shape}
      (members : List.Forall₂ (Makes row bag) args shapes) :
      Makes row bag (.construct typeName args) (.construct typeName shapes)

variable {m : Entity} {bag : Bag} {row row' : Row} {p : Projection}

theorem mem_named {property : String} : property ∈ p.named ↔ .column property ∈ p.parts := by
  rw [named, List.mem_filterMap]
  constructor
  · intro h
    obtain ⟨part, hpart, hproperty⟩ := h
    cases part with
    | column => cases hproperty; exact hpart
    | _ => simp [property?] at hproperty
  · intro h
    exact ⟨_, h, rfl⟩

section Reads

/-- What one part reads. -/
def read? : Projection → Option (Option String)
  | .subject => some none
  | .column property => some (some property)
  | _ => none

/-- The property of a part if there is no field for it. -/
def unmapped? (m : Entity) : Projection → Option String
  | .column property => if (m.field? property).isNone then some property else none
  | _ => none

/-- What some parts read, unless one of them has no field. -/
def readsOfParts (m : Entity) (parts : List Projection) :
    Except Obstacle (List (Option String)) :=
  match parts.findSome? (unmapped? m) with
  | some property => .error (.unmapped property)
  | none => .ok (parts.filterMap read?)

theorem readsOfParts_append (l r : List Projection) :
    (do let a ← readsOfParts m l
        let b ← readsOfParts m r
        .ok (a ++ b)) = readsOfParts m (l ++ r) := by
  unfold readsOfParts
  rw [List.findSome?_append, List.filterMap_append]
  cases l.findSome? (unmapped? m) with
  | some property => rfl
  | none => cases r.findSome? (unmapped? m) <;> rfl

theorem readsOfParts_cons {part : Projection} (hread : part.read? = none)
    (hunmapped : part.unmapped? m = none) (l : List Projection) :
    readsOfParts m (part :: l) = readsOfParts m l := by
  rw [readsOfParts, List.findSome?_cons, hunmapped, List.filterMap_cons_none hread]
  rfl

mutual

/-- A projection reads what its parts read. -/
theorem reads_eq (m : Entity) (p : Projection) : p.reads m = readsOfParts m p.parts := by
  cases p with
  | column property =>
    simp only [reads, parts, readsOfParts, List.findSome?_cons, unmapped?]
    cases m.field? property <;> rfl
  | tuple items => rw [reads, parts, readsOfParts_cons rfl rfl, readsOfItems_eq m items]
  | record typeName fields =>
    rw [reads, parts, readsOfParts_cons rfl rfl, readsOfFields_eq m fields]
  | construct typeName args =>
    rw [reads, parts, readsOfParts_cons rfl rfl, readsOfItems_eq m args]
  | _ => rfl

theorem readsOfItems_eq (m : Entity) (items : List Projection) :
    readsOfItems m items = readsOfParts m (partsOfItems items) := by
  cases items with
  | nil => rfl
  | cons p items =>
    rw [readsOfItems, reads_eq m p, readsOfItems_eq m items, partsOfItems, readsOfParts_append]

theorem readsOfFields_eq (m : Entity) (fields : List (String × Projection)) :
    readsOfFields m fields = readsOfParts m (partsOfFields fields) := by
  cases fields with
  | nil => rfl
  | cons f fields =>
    obtain ⟨name, p⟩ := f
    rw [readsOfFields, reads_eq m p, readsOfFields_eq m fields, partsOfFields, readsOfParts_append]

end

theorem contains_none_filterMap_read? (parts : List Projection) :
    (parts.filterMap read?).contains none = true ↔ .subject ∈ parts := by
  rw [List.contains_iff_mem, List.mem_filterMap]
  constructor
  · intro h
    obtain ⟨part, hpart, hread⟩ := h
    cases part with
    | subject => exact hpart
    | _ => simp [read?] at hread
  · intro h
    exact ⟨.subject, h, rfl⟩

theorem filterMap_filterMap_read? (parts : List Projection) :
    (parts.filterMap read?).filterMap id = parts.filterMap property? := by
  rw [List.filterMap_filterMap]
  congr 1
  funext part
  cases part <;> rfl

/-- The projection that asks for the named columns only. -/
def narrow (m : Entity) (p : Projection) : PreparedProjection :=
  ⟨(p.named.eraseDups.filterMap m.column?).eraseDups, p.named.eraseDups, p⟩

theorem prepare_eq (m : Entity) (p : Projection) : p.prepare m =
    match p.parts.findSome? (unmapped? m) with
    | some property => .error (.unmapped property)
    | none => .ok (if (p.parts.filterMap read?).contains none then .whole m p else p.narrow m) := by
  rw [prepare, reads_eq, readsOfParts]
  cases p.parts.findSome? (unmapped? m) with
  | some property => rfl
  | none =>
    rw [narrow, named, ← filterMap_filterMap_read?]
    exact (apply_ite Except.ok _ _ _).symm

theorem prepare_eq_error {x : Obstacle} : p.prepare m = .error x ↔
    ∃ property, p.parts.findSome? (unmapped? m) = some property ∧ x = .unmapped property := by
  rw [prepare_eq]
  cases p.parts.findSome? (unmapped? m) <;> simp [eq_comm]

theorem prepare_eq_ok {c : PreparedProjection} : p.prepare m = .ok c ↔
    p.parts.findSome? (unmapped? m) = none ∧
      (.subject ∈ p.parts ∧ c = .whole m p ∨ .subject ∉ p.parts ∧ c = p.narrow m) := by
  rw [prepare_eq, ← contains_none_filterMap_read?]
  generalize (p.parts.filterMap read?).contains none = whole
  cases p.parts.findSome? (unmapped? m) with
  | some property => simp
  | none => cases whole <;> simp [eq_comm]

/-- A projection is refused if it names a property without a field. -/
theorem findSome?_unmapped? (parts : List Projection) :
    (∃ property, parts.findSome? (unmapped? m) = some property) ↔
      ∃ property, .column property ∈ parts ∧ m.field? property = none := by
  rw [← Option.isSome_iff_exists, List.findSome?_isSome_iff]
  constructor
  · intro h
    obtain ⟨part, hpart, hunmapped⟩ := h
    cases part with
    | column property =>
      refine ⟨property, hpart, ?_⟩
      by_contra hfield
      simp [unmapped?, hfield] at hunmapped
    | _ => simp [unmapped?] at hunmapped
  · intro h
    obtain ⟨property, hproperty, hfield⟩ := h
    exact ⟨_, hproperty, by simp [unmapped?, hfield]⟩

end Reads

section Shapes

/-- Two rows have the same of what a part reads. -/
def SameIn (row row' : Row) : Projection → Prop
  | .subject => row = row'
  | .column property => row.value property = row'.value property
  | _ => True

mutual

/-- The shape depends on what the parts read, and on nothing else. -/
theorem shape_congr (p : Projection) (h : ∀ part ∈ p.parts, part.SameIn row row') :
    p.shape row bag = p.shape row' bag := by
  cases p with
  | subject =>
    have hrow : row = row' := h .subject (by simp [parts])
    rw [hrow]
  | column property =>
    have hvalue : row.value property = row'.value property :=
      h (.column property) (by simp [parts])
    rw [shape, shape, hvalue]
  | tuple items =>
    rw [shape, shape, shapeItems_congr items (List.forall_mem_cons.1 h).2]
  | record typeName fields =>
    rw [shape, shape, shapeFields_congr fields (List.forall_mem_cons.1 h).2]
  | construct typeName args =>
    rw [shape, shape, shapeItems_congr args (List.forall_mem_cons.1 h).2]
  | _ => rfl

theorem shapeItems_congr (items : List Projection)
    (h : ∀ part ∈ partsOfItems items, part.SameIn row row') :
    shapeItems row bag items = shapeItems row' bag items := by
  cases items with
  | nil => rfl
  | cons p items =>
    obtain ⟨hp, hitems⟩ := List.forall_mem_append.1 h
    rw [shapeItems, shapeItems, shape_congr p hp, shapeItems_congr items hitems]

theorem shapeFields_congr (fields : List (String × Projection))
    (h : ∀ part ∈ partsOfFields fields, part.SameIn row row') :
    shapeFields row bag fields = shapeFields row' bag fields := by
  cases fields with
  | nil => rfl
  | cons f fields =>
    obtain ⟨name, p⟩ := f
    obtain ⟨hp, hfields⟩ := List.forall_mem_append.1 h
    rw [shapeFields, shapeFields, shape_congr p hp, shapeFields_congr fields hfields]

end

mutual

theorem shape_eq_ok (p : Projection) (s : Shape) :
    p.shape row bag = .ok s ↔ p.Makes row bag s := by
  cases p with
  | subject =>
    constructor
    · intro h
      cases h
      exact .subject
    · intro h
      cases h
      rfl
  | column property =>
    constructor
    · intro h
      cases h
      exact .column property
    · intro h
      cases h
      rfl
  | const v =>
    constructor
    · intro h
      cases h
      exact .const v
    · intro h
      cases h
      rfl
  | param name =>
    rw [shape, Except.map_eq_ok]
    constructor
    · intro h
      obtain ⟨v, hv, rfl⟩ := h
      apply Makes.param
      unfold Bag.valueOf at hv
      split at hv
      next w hw => rw [hw, Except.ok.inj hv]
      next => cases hv
    · intro h
      cases h with
      | param value => exact ⟨_, by rw [Bag.valueOf, value], rfl⟩
  | tuple items =>
    rw [shape, Except.map_eq_ok]
    simp only [shapeItems_eq_ok items]
    constructor
    · intro h
      obtain ⟨shapes, hshapes, rfl⟩ := h
      exact .tuple hshapes
    · intro h
      cases h with
      | tuple members => exact ⟨_, members, rfl⟩
  | record typeName fields =>
    rw [shape, Except.map_eq_ok]
    simp only [shapeFields_eq_ok fields]
    constructor
    · intro h
      obtain ⟨shapes, hshapes, rfl⟩ := h
      exact .record hshapes.1 hshapes.2
    · intro h
      cases h with
      | record names members => exact ⟨_, ⟨names, members⟩, rfl⟩
  | construct typeName args =>
    rw [shape, Except.map_eq_ok]
    simp only [shapeItems_eq_ok args]
    constructor
    · intro h
      obtain ⟨shapes, hshapes, rfl⟩ := h
      exact .construct hshapes
    · intro h
      cases h with
      | construct members => exact ⟨_, members, rfl⟩

theorem shapeItems_eq_ok (items : List Projection) (shapes : List Shape) :
    shapeItems row bag items = .ok shapes ↔ List.Forall₂ (Makes row bag) items shapes := by
  cases items with
  | nil =>
    rw [shapeItems, List.forall₂_nil_left_iff, eq_comm (a := shapes)]
    exact ⟨Except.ok.inj, congrArg _⟩
  | cons p items =>
    rw [shapeItems, Except.bind_eq_ok, List.forall₂_cons_left_iff]
    simp only [Except.bind_eq_ok, shape_eq_ok p, shapeItems_eq_ok items]
    constructor
    · intro h
      obtain ⟨s, hs, rest, hrest, h⟩ := h
      exact ⟨s, rest, hs, hrest, (Except.ok.inj h).symm⟩
    · intro h
      obtain ⟨s, rest, hs, hrest, rfl⟩ := h
      exact ⟨s, hs, rest, hrest, rfl⟩

theorem shapeFields_eq_ok (fields : List (String × Projection)) (shapes : List (String × Shape)) :
    shapeFields row bag fields = .ok shapes ↔ fields.map Prod.fst = shapes.map Prod.fst ∧
      List.Forall₂ (Makes row bag) (fields.map Prod.snd) (shapes.map Prod.snd) := by
  cases fields with
  | nil =>
    cases shapes with
    | nil => simp [shapeFields]
    | cons s shapes => simp [shapeFields]
  | cons f fields =>
    obtain ⟨name, p⟩ := f
    rw [shapeFields, Except.bind_eq_ok]
    simp only [Except.bind_eq_ok, shape_eq_ok p, shapeFields_eq_ok fields]
    constructor
    · intro h
      obtain ⟨s, hs, rest, ⟨hnames, hrest⟩, h⟩ := h
      cases h
      exact ⟨congrArg (name :: ·) hnames, .cons hs hrest⟩
    · intro h
      obtain ⟨hnames, hmembers⟩ := h
      cases shapes with
      | nil => cases hnames
      | cons s shapes =>
        obtain ⟨name', s⟩ := s
        cases hmembers with
        | cons hs hrest =>
          obtain ⟨rfl, hrestnames⟩ := List.cons.inj hnames
          exact ⟨s, hs, shapes, ⟨hrestnames, hrest⟩, rfl⟩

end

/-- The parameter of a part if it has no value. -/
def missing? (bag : Bag) : Projection → Option String
  | .param name => if (bag.find? name).isNone then some name else none
  | _ => none

/-- A computation ends with the first parameter without a value, or well. -/
def Ends {α : Type} (missing : Option String) (r : Except Fault α) : Prop :=
  match missing with
  | some name => r = .error (.unboundParameter name)
  | none => ∃ a, r = .ok a

theorem Ends.map {α β : Type} {missing : Option String} {r : Except Fault α} (f : α → β)
    (h : Ends missing r) : Ends missing (r.map f) := by
  cases missing with
  | some name => exact congrArg (Except.map f) h
  | none =>
    obtain ⟨a, h⟩ := h
    exact ⟨f a, congrArg (Except.map f) h⟩

theorem Ends.bind {α β : Type} {missing missing' : Option String} {r : Except Fault α}
    {f : α → Except Fault β} (h : Ends missing r) (h' : ∀ a, Ends missing' (f a)) :
    Ends (missing.or missing') (r >>= f) := by
  cases missing with
  | some name =>
    cases h
    rfl
  | none =>
    obtain ⟨a, rfl⟩ := h
    exact h' a

mutual

/-- A shape fails for a parameter without a value, and for nothing else. -/
theorem ends_shape (row : Row) (bag : Bag) (p : Projection) :
    Ends (p.parts.findSome? (missing? bag)) (p.shape row bag) := by
  cases p with
  | param name =>
    simp only [parts, List.findSome?_cons, missing?, shape, Bag.valueOf]
    cases bag.find? name with
    | none => rfl
    | some v => exact ⟨_, rfl⟩
  | tuple items => exact (ends_shapeItems row bag items).map _
  | record typeName fields => exact (ends_shapeFields row bag fields).map _
  | construct typeName args => exact (ends_shapeItems row bag args).map _
  | _ => exact ⟨_, rfl⟩

theorem ends_shapeItems (row : Row) (bag : Bag) (items : List Projection) :
    Ends ((partsOfItems items).findSome? (missing? bag)) (shapeItems row bag items) := by
  cases items with
  | nil => exact ⟨_, rfl⟩
  | cons p items =>
    rw [partsOfItems, List.findSome?_append]
    apply (ends_shape row bag p).bind
    intro s
    exact (ends_shapeItems row bag items).map (s :: ·)

theorem ends_shapeFields (row : Row) (bag : Bag) (fields : List (String × Projection)) :
    Ends ((partsOfFields fields).findSome? (missing? bag)) (shapeFields row bag fields) := by
  cases fields with
  | nil => exact ⟨_, rfl⟩
  | cons f fields =>
    obtain ⟨name, p⟩ := f
    rw [partsOfFields, List.findSome?_append]
    apply (ends_shape row bag p).bind
    intro s
    exact (ends_shapeFields row bag fields).map ((name, s) :: ·)

end

/-- What a projection comes to for a row: a shape, or the first parameter without a value. -/
def Evaluates (p : Projection) (row : Row) (bag : Bag) : Except Fault Shape → Prop
  | .ok s => p.Makes row bag s
  | .error f =>
    ∃ name, p.parts.findSome? (missing? bag) = some name ∧ f = .unboundParameter name

theorem evaluates_shape (p : Projection) (row : Row) (bag : Bag) :
    p.Evaluates row bag (p.shape row bag) := by
  have hends := ends_shape row bag p
  cases hshape : p.shape row bag with
  | ok s => exact (shape_eq_ok p s).1 hshape
  | error f =>
    rw [hshape] at hends
    cases hmissing : p.parts.findSome? (missing? bag) with
    | some name =>
      rw [hmissing] at hends
      exact ⟨name, hmissing, Except.error.inj hends⟩
    | none =>
      rw [hmissing] at hends
      obtain ⟨s, hs⟩ := hends
      cases hs

end Shapes

end Projection

section faults

variable {m : Entity} {o : JsonMembers} {f : Fault}

theorem Row.failsBy_readField (origin : Origin) (m : Entity) (o : JsonMembers) (field : Field) :
    (Row.readField origin m o field).FailsBy
      fun f => ∃ property error, f = .badField origin m.name property error := by
  unfold readField
  cases memberFor o field with
  | none => exact .ok
  | some j => exact .mapError fun error => ⟨field.name, error, rfl⟩

/-- An object that cannot be read as a row has a bad field. -/
theorem Row.ofObject_eq_error {fields : List Field} (h : ofObject m fields o = .error f) :
    ∃ property error, f = .badField .load m.name property error := by
  obtain ⟨field, -, row, h⟩ := Except.exists_of_foldlM_eq_error h
  rcases Except.bind_eq_error.1 h with h | ⟨v, -, h⟩
  · exact failsBy_readField .load m o field f h
  · cases h

/-- A row is not shaped for a field that is bad or a parameter without a value. -/
theorem Cursor.shape_eq_error {c : Cursor} (h : c.shape o = .error f) :
    (∃ property error, f = .badField .load c.query.model.name property error) ∨
      ∃ name, f = .unboundParameter name := by
  rcases Except.bind_eq_error.1 h with h | ⟨row, -, h⟩
  · exact .inl (Row.ofObject_eq_error h)
  · have hevaluates := c.query.projection.projection.evaluates_shape row c.bag
    rw [h] at hevaluates
    obtain ⟨name, -, hf⟩ := hevaluates
    exact .inr ⟨name, hf⟩

end faults

end RemoteTable
