import RemoteTable.Change.State
import RemoteTable.Dict
import RemoteTable.Value.Basic

/-!
Tracked entries: the pending change of one row, property by property.
-/

namespace RemoteTable

/-- What an entry knows about one property. -/
structure Slot where
  current : Value
  /-- The value that the store last had. -/
  stored : Value
  modified : Bool
  /-- The current value only stands in for one that the store will assign. -/
  temporary : Bool

/-- A property that nothing is known about. -/
def Slot.blank : Slot := ⟨.null, .null, false, false⟩

/-- A pending change. -/
structure Entry where
  entity : String
  state : ChangeState
  slots : Dict Slot

namespace Entry

def start (entity : String) (state : ChangeState) : Entry := ⟨entity, state, .empty⟩

def slot (e : Entry) (property : String) : Slot := (e.slots.find? property).getD .blank

def current (e : Entry) (property : String) : Value := (e.slot property).current

def stored (e : Entry) (property : String) : Value := (e.slot property).stored

def isChanged (e : Entry) (property : String) : Bool := (e.slot property).modified

def isTemporary (e : Entry) (property : String) : Bool := (e.slot property).temporary

def update (e : Entry) (property : String) (f : Slot → Slot) : Entry :=
  { e with slots := e.slots.insert property (f (e.slot property)) }

@[simp] theorem slot_update (e : Entry) (p q : String) (f : Slot → Slot) :
    (e.update p f).slot q = if q = p then f (e.slot p) else e.slot q := by
  by_cases h : q = p <;> simp [update, slot, h]

/-- The property has this value, in the store as well. -/
def assign (e : Entry) (property : String) (v : Value) : Entry :=
  e.update property (fun s => { s with current := v, stored := v })

/-- The property has a stand-in for the value that the store will assign. -/
def assignTemporary (e : Entry) (property : String) (v : Value) : Entry :=
  e.update property (fun s => { s with current := v, temporary := true })

/-- The property is changed. -/
def change (e : Entry) (property : String) (v : Value) : Entry :=
  e.update property (fun s => { s with current := v, modified := true })

/-- The store has assigned a value, which is no change of the entry. -/
def accept (e : Entry) (property : String) (v : Value) : Entry :=
  e.update property (fun s => { s with current := v, stored := v, temporary := false })

/-- A reference follows the key of its principal. An update that is pending must send it. -/
def repoint (e : Entry) (property : String) (v : Value) : Entry :=
  e.update property
    (fun s => { s with current := v, modified := s.modified || e.state == .modified })

@[simp] theorem entity_accept (e : Entry) (p : String) (v : Value) :
    (e.accept p v).entity = e.entity := rfl

@[simp] theorem state_accept (e : Entry) (p : String) (v : Value) :
    (e.accept p v).state = e.state := rfl

@[simp] theorem current_accept (e : Entry) (p q : String) (v : Value) :
    (e.accept p v).current q = if q = p then v else e.current q := by
  by_cases h : q = p <;> simp [accept, current, h]

@[simp] theorem entity_repoint (e : Entry) (p : String) (v : Value) :
    (e.repoint p v).entity = e.entity := rfl

@[simp] theorem state_repoint (e : Entry) (p : String) (v : Value) :
    (e.repoint p v).state = e.state := rfl

@[simp] theorem current_repoint (e : Entry) (p q : String) (v : Value) :
    (e.repoint p v).current q = if q = p then v else e.current q := by
  by_cases h : q = p <;> simp [repoint, current, h]

@[simp] theorem stored_repoint (e : Entry) (p q : String) (v : Value) :
    (e.repoint p v).stored q = e.stored q := by
  by_cases h : q = p <;> simp [repoint, stored, h]

@[simp] theorem isChanged_repoint (e : Entry) (p q : String) (v : Value) :
    (e.repoint p v).isChanged q =
      if q = p then e.isChanged p || e.state == .modified else e.isChanged q := by
  by_cases h : q = p <;> simp [repoint, isChanged, h]

/-- The properties that have been changed. -/
def changedProperties (e : Entry) : List String :=
  (e.slots.toList.filter (fun p => p.2.modified)).map Prod.fst

end Entry

end RemoteTable
