/-!
Finite directed graphs and their sets of mutually reachable nodes, listed so that whatever a set
reaches comes before it. One depth-first search finds them all: it numbers the nodes as it meets
them, and a set is complete when its first node turns out to lead to no lower number.
-/

namespace RemoteTable

/-- A graph on the numbers below `n`: the successors of each, in any order and number. -/
abbrev Digraph (n : Nat) := Vector (List (Fin n)) n

namespace Digraph

variable {n : Nat}

/-- A depth-first search under way. -/
structure Search (n : Nat) where
  /-- The number of each node that has been met. -/
  index : Vector (Option Nat) n
  /-- The number of the next node to be met. -/
  next : Nat
  /-- The nodes met whose set is not complete, the latest first. -/
  stack : List (Fin n)
  components : List (List (Fin n))

namespace Search

def start (n : Nat) : Search n := ⟨Vector.replicate n none, 0, [], []⟩

/-- A node is met: it gets the next number and goes on the stack. -/
def meet (s : Search n) (v : Fin n) : Search n :=
  ⟨s.index.set v.val (some s.next) v.isLt, s.next + 1, v :: s.stack, s.components⟩

/-- The stack down to a node is a complete set. -/
def close (s : Search n) (v : Fin n) : Search n :=
  { s with
    stack := (s.stack.dropWhile (fun w => w != v)).tail
    components := s.components ++ [s.stack.takeWhile (fun w => w != v) ++ [v]] }

end Search

/-- One successor of a node. It is visited if it has not been met, and lowers the link of the node
if it is still on the stack. -/
def follow (visit : Search n → Fin n → Nat × Search n) (a : Nat × Search n) (w : Fin n) :
    Nat × Search n :=
  match a.2.index.get w with
  | none =>
    let b := visit a.2 w
    (min a.1 b.1, b.2)
  | some i => if a.2.stack.contains w then (min a.1 i, a.2) else a

/-- Visits a node and all that it leads to. The result has the link of the node: the lowest number
on the stack that was found to be reachable from it. Visits are nested no deeper than there are
nodes, which bounds the fuel. -/
def visit (g : Digraph n) : Nat → Search n → Fin n → Nat × Search n
  | 0, s, _ => (s.next, s)
  | fuel + 1, s, v =>
    let r := (g.get v).foldl (follow (visit g fuel)) (s.next, s.meet v)
    if r.1 = s.next then (r.1, r.2.close v) else r

/-- Visits a node unless it has been met. -/
def visitNew (g : Digraph n) (s : Search n) (v : Fin n) : Search n :=
  if (s.index.get v).isNone then (visit g n s v).2 else s

/-- The sets of mutually reachable nodes. -/
def components (g : Digraph n) : List (List (Fin n)) :=
  ((List.finRange n).foldl (visitNew g) (.start n)).components

end Digraph

end RemoteTable
