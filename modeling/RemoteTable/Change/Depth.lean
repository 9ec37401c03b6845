import RemoteTable.Change.Graph
import RemoteTable.Model.Schema

/-!
Depths of entity types: how many references lead from a type to one without principals, where types
that refer to each other count as one.
-/

namespace RemoteTable

/-- The depth of each type of a set. -/
abbrev Depths := Dict Nat

namespace Depths

/-- The depth of a type; a type outside the set has depth zero. -/
def depth (d : Depths) (entity : String) : Nat := (d.find? entity).getD 0

/-- The types of a list that a type refers to, other than itself. -/
def principals (s : Schema) (names : List String) (name : String) : List (Fin names.length) :=
  match s.get? name with
  | none => []
  | some m =>
    (m.foreignKeys.filter (fun k => k.principal != name)).filterMap
      (fun k => names.finIdxOf? k.principal)

/-- The references between different types of a list, from dependent to principal. -/
def references (s : Schema) (names : List String) : Digraph names.length :=
  Vector.ofFn fun i => principals s names (names.get i)

/-- The depth of a set of mutually reachable nodes, given the depths of all that it reaches. -/
def depthOfSet {n : Nat} (g : Digraph n) (known : Vector Nat n) (members : List (Fin n)) : Nat :=
  let outside := (members.flatMap g.get).filter (fun w => !members.contains w)
  (outside.map (fun w => known.get w + 1)).foldl max 0

/-- Enters the depth of a set of nodes. -/
def enter {n : Nat} (g : Digraph n) (known : Vector Nat n) (members : List (Fin n)) :
    Vector Nat n :=
  let d := depthOfSet g known members
  Vector.ofFn fun v => if members.contains v then d else known.get v

/-- The depths of all nodes, settled set by set. -/
def ofGraph {n : Nat} (g : Digraph n) : Vector Nat n :=
  g.components.foldl (enter g) (Vector.replicate n 0)

/-- The depths of the types of a list. -/
def ofTypes (s : Schema) (types : List String) : Depths :=
  let names := types.eraseDups
  let depths := ofGraph (references s names)
  Dict.ofList ((List.finRange names.length).map (fun i => (names.get i, depths.get i)))

end Depths

end RemoteTable
