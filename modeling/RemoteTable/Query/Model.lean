import RemoteTable.Query.Expr

/-!
Queries of one table: filters, ordering and page bounds in terms of columns.
-/

namespace RemoteTable

/-- A test that the remote carries out on one column. -/
inductive ColumnTest where
  | compare (c : Comparison)
  | like
  | ilike
  /-- The test for null or a truth value, which is never unknown. -/
  | is
  | oneOf
  deriving DecidableEq

namespace ColumnTest

/-- The name of a test on the wire. -/
def label : ColumnTest → String
  | .compare .eq => "eq"
  | .compare .ne => "neq"
  | .compare .gt => "gt"
  | .compare .gte => "gte"
  | .compare .lt => "lt"
  | .compare .lte => "lte"
  | .like => "like"
  | .ilike => "ilike"
  | .is => "is"
  | .oneOf => "in"

def all : List ColumnTest :=
  [.compare .eq, .compare .ne, .compare .gt, .compare .gte, .compare .lt, .compare .lte, .like,
    .ilike, .is, .oneOf]

/-- The test of a name. -/
def ofLabel? (label : String) : Option ColumnTest := all.find? (fun o => o.label == label)

theorem ofLabel?_label (o : ColumnTest) : ofLabel? o.label = some o := by
  cases o with
  | compare c => cases c <;> decide
  | _ => decide

end ColumnTest

/-- What a column is tested against: known now, or named for later. -/
inductive Operand where
  | literal (v : Value)
  | param (name : String)

def Operand.isNull : Operand → Bool
  | .literal v => v.isNull
  | .param _ => false

/-- A test of one column, or its negation. -/
structure Filter where
  column : String
  op : ColumnTest
  negated : Bool
  operand : Operand

/-- Filters that must all pass, and groups of which one filter each must pass. -/
structure Conditions where
  filters : List Filter
  groups : List (List Filter)

namespace Conditions

def empty : Conditions := ⟨[], []⟩

def append (a b : Conditions) : Conditions := ⟨a.filters ++ b.filters, a.groups ++ b.groups⟩

instance : Append Conditions := ⟨append⟩

end Conditions

inductive Direction where
  | asc
  | desc
  deriving DecidableEq

def Direction.label : Direction → String
  | .asc => "asc"
  | .desc => "desc"

structure SortKey where
  column : String
  direction : Direction
  deriving DecidableEq

/-- A number of rows: known now, or named for later. -/
inductive RowCount where
  | known (n : UInt64)
  | param (name : String)
  deriving DecidableEq

/-- A query of one table. -/
structure Query where
  table : String
  conditions : Conditions
  /-- The columns to return; none stands for all. -/
  select : List String
  order : List SortKey
  offset : Option RowCount
  limit : Option RowCount

def Query.ofTable (table : String) : Query := ⟨table, .empty, [], [], none, none⟩

/-- The values of parameters. -/
abbrev Bag := Dict Value

end RemoteTable
