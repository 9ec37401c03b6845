import RemoteTable.Metrics.Event
import RemoteTable.Query.Predicate
import RemoteTable.Query.Projection

/-!
Queries under construction, one operator after another. An operator that the remote has no
equivalent for leaves the query as it is and is reported.
-/

namespace RemoteTable

/-- An operator of a query. -/
inductive QueryStep where
  | filter (predicate : Expr)
  | select (projection : Projection)
  | orderBy (key : Expr) (direction : Direction)
  | thenBy (key : Expr) (direction : Direction)
  | skip (count : RowCount)
  | take (count : RowCount)
  | join
  | groupBy
  | distinct
  | aggregate (name : String)

/-- A query under construction. -/
structure Pipeline where
  model : Entity
  query : Query
  projection : Option PreparedProjection

/-- A query that is ready to run. -/
structure PreparedQuery where
  model : Entity
  query : Query
  projection : PreparedProjection

/-- The sum of two counts, or the greatest count if it is larger. -/
def addSaturating (a b : UInt64) : UInt64 :=
  UInt64.ofNat (min (a.toNat + b.toNat) (UInt64.size - 1))

/-- The difference of two counts, or zero if it is negative. -/
def subSaturating (a b : UInt64) : UInt64 := UInt64.ofNat (a.toNat - b.toNat)

namespace Pipeline

/-- The query of a whole table. -/
def start (m : Entity) : Pipeline := ⟨m, .ofTable m.table, none⟩

def checkUnshaped (t : Pipeline) : Except Obstacle Unit :=
  if t.projection.isSome then .error .afterSelect else .ok ()

def checkUnpaged (t : Pipeline) : Except Obstacle Unit :=
  if t.query.offset.isSome || t.query.limit.isSome then .error .afterPaging else .ok ()

/-- The column of an ordering key. -/
def keyColumn (m : Entity) (key : Expr) : Except Obstacle String :=
  match key.stripped with
  | .column p => m.columnOf p
  | _ => .error .computedKey

/-- Rows skipped after a limit come off the limit. -/
def narrowedLimit (limit : Option RowCount) (skipped : RowCount) :
    Except Obstacle (Option RowCount) :=
  match limit, skipped with
  | none, _ => .ok none
  | some (.known limit), .known n => .ok (some (.known (subSaturating limit n)))
  | _, _ => .error .deferredSkipAfterTake

/-- Rows skipped twice add up. -/
def widenedOffset (offset : Option RowCount) (skipped : RowCount) : Except Obstacle RowCount :=
  match offset, skipped with
  | none, n => .ok n
  | some (.known a), .known b => .ok (.known (addSaturating a b))
  | _, _ => .error .deferredRepeatedSkip

/-- Of two limits the smaller holds. -/
def tightenedLimit (limit : Option RowCount) (taken : RowCount) : Except Obstacle RowCount :=
  match limit, taken with
  | none, n => .ok n
  | some (.known a), .known b => .ok (.known (min a b))
  | _, _ => .error .deferredRepeatedTake

/-- The query with one more operator. -/
def extend (t : Pipeline) : QueryStep → Except Obstacle Pipeline
  | .filter predicate => do
    t.checkUnshaped
    t.checkUnpaged
    let set ← Predicate.conditionsOf t.model predicate
    .ok { t with query := { t.query with conditions := t.query.conditions ++ set } }
  | .select projection => do
    t.checkUnshaped
    let prepared ← projection.prepare t.model
    .ok { t with projection := some prepared }
  | .orderBy key direction => do
    t.checkUnshaped
    t.checkUnpaged
    let column ← keyColumn t.model key
    .ok { t with query := { t.query with order := [⟨column, direction⟩] } }
  | .thenBy key direction => do
    t.checkUnshaped
    t.checkUnpaged
    if t.query.order.isEmpty then .error .thenWithoutOrder
    else
      let column ← keyColumn t.model key
      .ok { t with query := { t.query with order := t.query.order ++ [⟨column, direction⟩] } }
  | .skip count => do
    let limit ← narrowedLimit t.query.limit count
    let offset ← widenedOffset t.query.offset count
    .ok { t with query := { t.query with offset := some offset, limit := limit } }
  | .take count => do
    let limit ← tightenedLimit t.query.limit count
    .ok { t with query := { t.query with limit := some limit } }
  | .join => .error .join
  | .groupBy => .error .groupBy
  | .distinct => .error .distinct
  | .aggregate _ => .error .aggregate

/-- The event of an operator that falls back to the host. -/
def fallback (t : Pipeline) (reason : Obstacle) : Event :=
  .fallback t.model.table reason.message

/-- The query with one more operator, or as it was, with the event of the obstacle. -/
def step (t : Pipeline) (op : QueryStep) : Pipeline × List Event :=
  match t.extend op with
  | .ok next => (next, [])
  | .error reason => (t, [t.fallback reason])

/-- One operator after another, each where nothing is in its way, and the events of the others. -/
def steps (t : Pipeline) : List QueryStep → Pipeline × List Event
  | [] => (t, [])
  | op :: r =>
    let (t, events) := t.step op
    let (t, more) := t.steps r
    (t, events ++ more)

/-- The query as it will run: whole rows, unless there is a projection. -/
def prepare (t : Pipeline) : PreparedQuery :=
  let projection := t.projection.getD (.entity t.model)
  ⟨t.model, { t.query with select := projection.columns }, projection⟩

end Pipeline

end RemoteTable
