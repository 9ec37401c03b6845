import RemoteTable.Change.Entry
import RemoteTable.Change.Graph
import RemoteTable.Model.Schema
import RemoteTable.Value.Printer

/-!
Deletes that the store carries out by itself, because they follow by cascades from deletes that are
sent.
-/

namespace RemoteTable.Cascade

variable {n : Nat}

/-- Whether the reference of one row names the other row, by the texts of the stored values. -/
def refersTo (k : ForeignKey) (principalModel : Entity) (dependent principal : Entry) : Bool :=
  let key := k.resolvedKey principalModel
  !key.isEmpty && key.length == k.properties.length &&
    (k.properties.zip key).all fun (p, q) =>
      !(dependent.stored p).isNull && (dependent.stored p).wireText == (principal.stored q).wireText

/-- Whether the delete of the second row takes the first row with it. -/
def covers (s : Schema) (dependent principal : Entry) : Bool :=
  match s.get? dependent.entity, s.get? principal.entity with
  | some m, some pm =>
    m.foreignKeys.any fun k =>
      k.cascades && k.principal == principal.entity && refersTo k pm dependent principal
  | _, _ => false

def isDelete (e : Entry) : Bool := e.state == .deleted

/-- The graph of a batch that leads from each delete to all others that take its row with them. -/
def graph (s : Schema) (entries : Vector Entry n) : Digraph n :=
  Vector.ofFn fun i =>
    if isDelete (entries.get i) then
      (List.finRange n).filter fun j =>
        j != i && isDelete (entries.get j) && covers s (entries.get i) (entries.get j)
    else []

/-- The nodes without successors: deletes that nothing covers, so that they have to be sent. -/
def uncovered (g : Digraph n) : Vector Bool n := Vector.ofFn fun i => (g.get i).isEmpty

/-- A node with a successor that is anchored is anchored itself. -/
def anchor (g : Digraph n) (anchored : Vector Bool n) (i : Fin n) : Vector Bool n :=
  if !anchored.get i && (g.get i).any anchored.get then anchored.set i.val true i.isLt else anchored

/-- One pass over all nodes. -/
def pass (g : Digraph n) (anchored : Vector Bool n) : Vector Bool n :=
  (List.finRange n).foldl (anchor g) anchored

/-- Passes until one changes nothing. Each that does anchors a node, which bounds the fuel. -/
def settle (g : Digraph n) : Nat → Vector Bool n → Vector Bool n
  | 0, anchored => anchored
  | fuel + 1, anchored =>
    let next := pass g anchored
    if next = anchored then anchored else settle g fuel next

/-- The deletes that are left to the store: those that are covered, by a delete that is sent or is
itself left to the store. Deletes that only cover each other are not among them. -/
def elided (s : Schema) (entries : Vector Entry n) : List (Fin n) :=
  let g := graph s entries
  let anchored := settle g n (uncovered g)
  (List.finRange n).filter fun i =>
    isDelete (entries.get i) && anchored.get i && !(g.get i).isEmpty

end RemoteTable.Cascade
