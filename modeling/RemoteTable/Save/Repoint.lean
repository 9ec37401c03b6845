import RemoteTable.Change.Entry
import RemoteTable.Model.Schema
import RemoteTable.Notice

/-!
Keys that the store assigns to inserted rows, passed on to the references that held the stand-ins.
-/

namespace RemoteTable.Repoint

variable {n : Nat}

/-- The current values of the key of an entry. -/
def keyValues (m : Entity) (e : Entry) : List Value := m.key.map e.current

/-- The properties of a reference with the place of what they refer to in the key of the principal;
`none` if the reference is to anything but the key. -/
def placesInKey? (k : ForeignKey) (principal : Entity) : Option (List (String × Nat)) :=
  let key := k.resolvedKey principal
  if key.length = k.properties.length then
    (k.properties.zip key).mapM fun (p, q) => (principal.key.idxOf? q).map (p, ·)
  else none

/-- The key that an insert has replaced, and the key that replaced it. -/
structure Assignment where
  placeholder : List Value
  assigned : List Value

/-- Whether there is anything to pass on: a whole key that has changed its text. -/
def Assignment.matters (a : Assignment) : Bool :=
  !a.placeholder.isEmpty && a.placeholder.all (fun v => !v.isNull) &&
    a.assigned.map Value.wireText != a.placeholder.map Value.wireText

/-- The text of a value of a key; there is none beyond its end. -/
def textAt (l : List Value) (i : Nat) : Option String := (l[i]?).map Value.wireText

/-- Repoints one reference of an entry if it holds the placeholder. -/
def repointKey (principal : Entity) (a : Assignment) (e : Entry) (k : ForeignKey) :
    Entry × List (String × Value) :=
  match placesInKey? k principal with
  | none => (e, [])
  | some slots =>
    if slots.all (fun (p, i) => some (e.current p).wireText == textAt a.placeholder i) then
      let values := slots.map fun (p, i) => (p, (a.assigned[i]?).getD .null)
      (values.foldl (fun e (p, v) => e.repoint p v) e, values)
    else (e, [])

/-- Repoints the references of an entry to a type, one after another. -/
def repointAll (principal : Entity) (a : Assignment) (e : Entry) :
    List ForeignKey → Entry × List (String × Value)
  | [] => (e, [])
  | k :: r =>
    let (e, values) := repointKey principal a e k
    let (e, more) := repointAll principal a e r
    (e, values ++ more)

/-- The references of an entry to a type; only rows that are still to be written have any. -/
def referencesOf (s : Schema) (principal : Entity) (e : Entry) : List ForeignKey :=
  if e.state = .added ∨ e.state = .modified then
    match s.get? e.entity with
    | some m => m.foreignKeys.filter fun k => k.principal == principal.name
    | none => []
  else []

/-- Repoints the pending entries after an insert. -/
def run (s : Schema) (principal : Entity) (a : Assignment) (entries : Vector Entry n) :
    List (Fin n) → Vector Entry n × Log
  | [] => (entries, [])
  | i :: pending =>
    let before := entries.get i
    let (e, values) := repointAll principal a before (referencesOf s principal before)
    let (entries, log) := run s principal a (entries.set i e i.isLt) pending
    (entries, values.map (fun (p, v) => .repointed i p v) ++ log)

end RemoteTable.Repoint
