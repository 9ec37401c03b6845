import RemoteTable.Change.Cascade
import RemoteTable.Change.Depth
import RemoteTable.Fault
import RemoteTable.Metrics.Event

/-!
Dispatch plans: the order in which the changes of a batch are sent. Inserts go first, principals
before dependents; updates follow in their own order; the deletes that remain go last, again
principals before dependents.
-/

namespace RemoteTable

/-- The order of a batch of `n` entries, and its deletes that are left to the store. -/
structure Plan (n : Nat) where
  order : List (Fin n)
  elided : List (Fin n)
  deriving DecidableEq

namespace Plan

variable {n : Nat}

/-- An entry can be planned if its type is registered and its state is a pending one. -/
def check (s : Schema) (entries : Vector Entry n) (i : Fin n) : Except Fault Unit :=
  let e := entries.get i
  if (s.get? e.entity).isNone then .error (.unregistered .relation e.entity)
  else
    match e.state with
    | .added => .ok ()
    | .modified => .ok ()
    | .deleted => .ok ()
    | state => .error (.notPending i e.entity state)

/-- The positions of the entries in a state. -/
def positions (entries : Vector Entry n) (state : ChangeState) : List (Fin n) :=
  (List.finRange n).filter fun i => (entries.get i).state == state

/-- Positions in ascending order of the depths of their types; those of one depth keep their
order. -/
def byDepth (d : Depths) (entries : Vector Entry n) (l : List (Fin n)) : List (Fin n) :=
  l.mergeSort fun i j => decide (d.depth (entries.get i).entity ≤ d.depth (entries.get j).entity)

/-- The plan of a batch whose entries can all be planned. -/
def arrange (s : Schema) (entries : Vector Entry n) : Plan n :=
  let elided := Cascade.elided s entries
  let depths := Depths.ofTypes s (entries.toList.map Entry.entity)
  let deletes := (positions entries .deleted).filter fun i => !elided.contains i
  ⟨byDepth depths entries (positions entries .added) ++ positions entries .modified ++
      byDepth depths entries deletes,
    elided⟩

/-- The plan of a batch, or the fault of its first entry that cannot be planned. -/
def ofBatch (s : Schema) (entries : Vector Entry n) : Except Fault (Plan n) := do
  (List.finRange n).forM (check s entries)
  .ok (arrange s entries)

/-- The table of an entity type; an unregistered type stands for its own name. -/
def tableOf (s : Schema) (entity : String) : String :=
  match s.get? entity with
  | some m => m.table
  | none => entity

/-- The events of the deletes that are left to the store. -/
def events (s : Schema) (entries : Vector Entry n) (p : Plan n) : List Event :=
  p.elided.map fun i => .elided (tableOf s (entries.get i).entity)

end Plan

end RemoteTable
