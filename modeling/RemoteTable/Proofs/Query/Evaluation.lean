import RemoteTable.Proofs.Query.Meaning
import RemoteTable.Proofs.Query.Ranking

/-!
What a query answers for the rows of its table. The remote takes the query as one: the rows that
pass its conditions, in its order, one page of them, each in its shape. A host takes the operators
one after another, each on what the ones before it left.
-/

namespace RemoteTable

/-- The order of the values in a column. -/
structure Collation where
  le : Value → Value → Bool
  lawful : Ranking.Lawful le

namespace Collation

/-- Integers in their order, before everything else. -/
def integers : Collation where
  le a b :=
    match a.asInt?, b.asInt? with
    | _, none => true
    | none, some _ => false
    | some x, some y => x.toInt ≤ y.toInt
  lawful := by
    constructor
    · intro a b c hab hbc
      cases ha : a.asInt? <;> cases hb : b.asInt? <;> cases hc : c.asInt? <;> simp_all
      omega
    · intro a b
      cases ha : a.asInt? <;> cases hb : b.asInt? <;> simp
      omega

end Collation

def Direction.le (c : Collation) : Direction → Value → Value → Bool
  | .asc => c.le
  | .desc => fun a b => c.le b a

namespace SortKey

def le (c : Collation) (key : SortKey) (a b : TableRow) : Bool :=
  key.direction.le c (a key.column) (b key.column)

/-- The order by several keys, of which the first counts most. -/
def allLe (c : Collation) : List SortKey → TableRow → TableRow → Bool
  | [] => fun _ _ => true
  | key :: keys => Ranking.refined (key.le c) (allLe c keys)

end SortKey

/-- The row of an entity by property. -/
def Entity.rowOf (m : Entity) (row : TableRow) : Row :=
  .ofList (m.fields.map fun f => (f.name, row f.column))

namespace Query

/-- What is left of a list from an offset on, up to a limit. -/
def page {α : Type} (offset limit : Option UInt64) (l : List α) : List α :=
  let rest := l.drop ((offset.map UInt64.toNat).getD 0)
  match limit with
  | none => rest
  | some n => rest.take n.toNat

def boundIn (bag : Bag) : Option RowCount → Except Fault (Option UInt64)
  | none => .ok none
  | some b => (b.valueIn bag).map some

/-- The bounds of the page have values. -/
def Bounded (bag : Bag) (q : Query) : Prop :=
  ∀ b, q.offset = some b ∨ q.limit = some b → ∃ n, b.valueIn bag = .ok n

/-- The rows that a query selects, in order. -/
def sorted (k : Tests) (c : Collation) (bag : Bag) (rows : List TableRow) (q : Query) :
    List TableRow :=
  (rows.filter (q.conditions.pass k bag)).mergeSort (SortKey.allLe c q.order)

def rowsOf (k : Tests) (c : Collation) (bag : Bag) (rows : List TableRow) (q : Query) :
    Except Fault (List TableRow) := do
  let offset ← boundIn bag q.offset
  let limit ← boundIn bag q.limit
  .ok (page offset limit (q.sorted k c bag rows))

end Query

/-- What the remote answers to a query. A row without a shape leaves its fault. -/
def PreparedQuery.answer (k : Tests) (c : Collation) (bag : Bag) (rows : List TableRow)
    (q : PreparedQuery) : Except Fault (List (Except Fault Shape)) :=
  (q.query.rowsOf k c bag rows).map
    (List.map fun row => q.projection.projection.shape (q.model.rowOf row) bag)

/-- What a host has between two operators. -/
inductive Stage where
  /-- Rows as they arrived, and in groups that the order so far does not tell apart. -/
  | rows (arrived : List TableRow) (groups : List (List TableRow))
  | shapes (l : List (Except Fault Shape))

namespace Stage

section

variable (k : Tests) (c : Collation) (bag : Bag) (m : Entity)

/-- The order of rows by the values of an expression. -/
def keyLe (key : Expr) (d : Direction) (a b : TableRow) : Bool :=
  d.le c ((key.value? m bag a).getD .null) ((key.value? m bag b).getD .null)

/-- A page of rows arrives in its order. -/
def ofPage (groups : List (List TableRow)) : Stage := .rows groups.flatten groups

/-- One operator of a host. What has been shaped has no columns any more. -/
def step : Stage → QueryStep → Option Stage
  | .rows arrived groups, .filter e =>
    let holds := fun row => e.truth k m bag row == .yes
    some (.rows (arrived.filter holds) (groups.map (List.filter holds)))
  | .rows arrived _, .orderBy key d =>
    some (.rows arrived (Ranking.refine (keyLe c bag m key d) [arrived]))
  | .rows arrived groups, .thenBy key d =>
    some (.rows arrived (Ranking.refine (keyLe c bag m key d) groups))
  | .rows _ groups, .skip n =>
    (n.valueIn bag).toOption.map fun n => ofPage (Ranking.dropRows n.toNat groups)
  | .rows _ groups, .take n =>
    (n.valueIn bag).toOption.map fun n => ofPage (Ranking.takeRows n.toNat groups)
  | .rows _ groups, .select p =>
    some (.shapes (groups.flatten.map fun row => p.shape (m.rowOf row) bag))
  | .shapes l, .skip n => (n.valueIn bag).toOption.map fun n => .shapes (l.drop n.toNat)
  | .shapes l, .take n => (n.valueIn bag).toOption.map fun n => .shapes (l.take n.toNat)
  | _, _ => none

/-- What comes out in the end; rows that have no other shape are entities. -/
def output : Stage → List (Except Fault Shape)
  | .rows _ groups => groups.flatten.map fun row => .ok (.entity (m.rowOf row))
  | .shapes l => l

/-- The operators one after another. -/
def run (rows : List TableRow) (ops : List QueryStep) : Option (List (Except Fault Shape)) :=
  (ops.foldlM (step k c bag m) (.rows rows [rows])).map (output m)

end

end Stage

end RemoteTable
