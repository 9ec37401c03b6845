import RemoteTable.Model.Entity
import RemoteTable.Query.Model
import RemoteTable.Query.Obstacle

/-!
From predicates to filters. A conjunction becomes its filters in order, a disjunction becomes a
group, and everything else has to be a single filter.
-/

namespace RemoteTable

namespace Entity

/-- The column of a property that a query names. -/
def columnOf (m : Entity) (property : String) : Except Obstacle String :=
  match m.column? property with
  | some c => .ok c
  | none => .error (.unmapped property)

end Entity

namespace Predicate

/-- The value side of a comparison. -/
def operandOf : Expr → Except Obstacle Operand
  | .const (.list _) => .error .notColumnAndValue
  | .const v => .ok (.literal v)
  | .param name => .ok (.param name)
  | _ => .error .notColumnAndValue

/-- A comparison of a column; equality with null is the test for null. -/
def compareColumn (m : Entity) (op : Comparison) (property : String) (value : Expr) :
    Except Obstacle Filter := do
  let column ← m.columnOf property
  let operand ← operandOf value
  if operand.isNull then
    match op with
    | .eq => .ok ⟨column, .is, false, operand⟩
    | .ne => .ok ⟨column, .is, true, operand⟩
    | _ => .error .orderedNull
  else .ok ⟨column, .compare op, false, operand⟩

/-- A comparison with the column on either side. -/
def ofComparison (m : Entity) (op : Comparison) (left right : Expr) : Except Obstacle Filter :=
  match left.stripped, right.stripped with
  | .column _, .column _ => .error .notColumnAndValue
  | .column p, v => compareColumn m op p v
  | v, .column p => compareColumn m op.reversed p v
  | _, _ => .error .notColumnAndValue

/-- The pattern of a method for a text that is known. -/
def pattern (method : CallName) (text : String) : String :=
  match method with
  | .startsWith => text ++ "*"
  | .endsWith => "*" ++ text
  | _ => "*" ++ text ++ "*"

/-- A search for a text in a column. A text that is named for later brings its own asterisks. -/
def textSearch (m : Entity) (method : CallName) (property : String) (arg : Expr) :
    Except Obstacle Filter := do
  let column ← m.columnOf property
  match arg.stripped with
  | .const (.text s) => .ok ⟨column, .like, false, .literal (.text (pattern method s))⟩
  | .param name => .ok ⟨column, .like, false, .param name⟩
  | _ => .error (.method method.label)

/-- The test whether a column is one of a list of values. -/
def listSearch (m : Entity) (list item : Expr) : Except Obstacle Filter :=
  match item.stripped with
  | .column property => do
    let column ← m.columnOf property
    match list.stripped with
    | .const (.list items) => .ok ⟨column, .oneOf, false, .literal (.list items)⟩
    | .param name => .ok ⟨column, .oneOf, false, .param name⟩
    | _ => .error (.method CallName.contains.label)
  | _ => .error (.method CallName.contains.label)

/-- A match of a column with a pattern that is given. -/
def patternMatch (m : Entity) (method : CallName) (op : ColumnTest) (subject pattern : Expr) :
    Except Obstacle Filter :=
  match subject.stripped with
  | .column property => do
    let column ← m.columnOf property
    match pattern.stripped with
    | .const (.text s) => .ok ⟨column, op, false, .literal (.text s)⟩
    | .param name => .ok ⟨column, op, false, .param name⟩
    | _ => .error (.method method.label)
  | _ => .error (.method method.label)

def ofCall (m : Entity) (method : CallName) (target : Option Expr) (args : List Expr) :
    Except Obstacle Filter :=
  match method, target.map Expr.stripped, args with
  | .contains, some (.column p), [arg] => textSearch m .contains p arg
  | .startsWith, some (.column p), [arg] => textSearch m .startsWith p arg
  | .endsWith, some (.column p), [arg] => textSearch m .endsWith p arg
  | .contains, some list, [item] => listSearch m list item
  | .contains, none, [list, item] => listSearch m list item
  | .like, none, [subject, pattern] => patternMatch m .like .like subject pattern
  | .ilike, none, [subject, pattern] => patternMatch m .ilike .ilike subject pattern
  | method, _, _ => .error (.method method.label)

/-- A truth value by itself. -/
def booleanColumn (m : Entity) (property : String) : Except Obstacle Filter :=
  match m.field? property with
  | none => .error (.unmapped property)
  | some f =>
    if f.kind = .bool then .ok ⟨f.column, .is, false, .literal (.bool true)⟩
    else .error (.notBoolean property)

/-- The negation of a filter. The test for a truth value becomes the test for the other one. -/
def opposite (f : Filter) : Filter :=
  match f.op, f.operand with
  | .is, .literal (.bool b) => { f with operand := .literal (.bool !b) }
  | _, _ => { f with negated := !f.negated }

/-- Under a negation, what is no single filter is reported as such. -/
def underNegation : Obstacle → Obstacle
  | .nestedGroup => .negatedGroup
  | u => u

/-- An expression that is one filter. -/
def filterOf (m : Entity) : Expr → Except Obstacle Filter
  | .convert e => filterOf m e
  | .not e => ((filterOf m e).mapError underNegation).map opposite
  | .compare op l r => ofComparison m op l r
  | .and _ _ => .error .nestedGroup
  | .or _ _ => .error .nestedGroup
  | .arith _ _ _ => .error .arithmetic
  | .call method target args => ofCall m method target args
  | .column p => booleanColumn m p
  | .member _ _ => .error .navigation
  | .const _ => .error .constant
  | .param _ => .error .parameter

/-- The branches of a disjunction. -/
def branches (m : Entity) : Expr → Except Obstacle (List Filter)
  | .convert e => branches m e
  | .or l r => do
    let a ← branches m l
    let b ← branches m r
    .ok (a ++ b)
  | e => (filterOf m e).map ([·])

/-- The filters and groups that a predicate stands for. -/
def conditionsOf (m : Entity) : Expr → Except Obstacle Conditions
  | .convert e => conditionsOf m e
  | .and l r => do
    let a ← conditionsOf m l
    let b ← conditionsOf m r
    .ok (a ++ b)
  | .or l r => (branches m (.or l r)).map (fun g => ⟨[], [g]⟩)
  | e => (filterOf m e).map (fun f => ⟨[f], []⟩)

end Predicate

end RemoteTable
