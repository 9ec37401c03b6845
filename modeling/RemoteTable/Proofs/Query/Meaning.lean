import Mathlib.Order.Compare
import Mathlib.Data.String.Basic
import RemoteTable.Query.QueryString
import RemoteTable.Text.Lowercase

/-!
What predicates and filters say about one row of a table, with a third answer for what is unknown.
A predicate is read as it stands, connective by connective. A filter is read as the remote reads
it, with the operand that the request carries. How two values compare and which texts match a
pattern is the same for both, and given.
-/

namespace RemoteTable

/-- An answer of the remote. -/
inductive Truth where
  | yes
  | no
  | unknown
  deriving DecidableEq

namespace Truth

def ofBool (b : Bool) : Truth := if b then .yes else .no

/-- A truth value is its own answer. -/
def ofValue : Value → Truth
  | .bool b => ofBool b
  | _ => .unknown

def not : Truth → Truth
  | .yes => .no
  | .no => .yes
  | .unknown => .unknown

def and : Truth → Truth → Truth
  | .yes, t => t
  | .no, _ => .no
  | .unknown, .no => .no
  | .unknown, _ => .unknown

def or : Truth → Truth → Truth
  | .no, t => t
  | .yes, _ => .yes
  | .unknown, .yes => .yes
  | .unknown, _ => .unknown

@[simp] theorem not_not (t : Truth) : t.not.not = t := by cases t <;> rfl

@[simp] theorem and_eq_yes {s t : Truth} : s.and t = .yes ↔ s = .yes ∧ t = .yes := by
  cases s <;> cases t <;> simp [and]

@[simp] theorem or_eq_yes {s t : Truth} : s.or t = .yes ↔ s = .yes ∨ t = .yes := by
  cases s <;> cases t <;> simp [or]

@[simp] theorem not_eq_yes {t : Truth} : t.not = .yes ↔ t = .no := by cases t <;> simp [not]

@[simp] theorem ofBool_eq_yes {b : Bool} : ofBool b = .yes ↔ b = true := by
  cases b <;> simp [ofBool]

@[simp] theorem not_ofBool (b : Bool) : (ofBool b).not = ofBool (!b) := by cases b <;> rfl

theorem ofValue_eq_ofBool {v : Value} {b : Bool} :
    ofValue v = ofBool b ↔ v = .bool b := by
  cases v with
  | bool c => cases b <;> cases c <;> simp [ofValue, ofBool]
  | _ => cases b <;> simp [ofValue, ofBool]

end Truth

/-- The tests of values that the remote knows. -/
structure Tests where
  compare : Comparison → Value → Value → Truth
  /-- Whether a value matches a pattern. -/
  like : Value → Value → Truth
  ilike : Value → Value → Truth
  /-- Whether a value is in a list. -/
  oneOf : Value → Value → Truth
  compare_reversed : ∀ op a b, compare op.reversed b a = compare op a b

namespace Tests

/-- A comparison with null has no answer. -/
def compared (k : Tests) (op : Comparison) (a b : Value) : Truth :=
  if a.isNull || b.isNull then .unknown else k.compare op a b

theorem compared_reversed (k : Tests) (op : Comparison) (a b : Value) :
    k.compared op.reversed b a = k.compared op a b := by
  rw [compared, compared, Bool.or_comm, k.compare_reversed]

/-- The test for null or for a truth value, which always has an answer. -/
def isAs (v : Value) : Value → Bool
  | .null => v.isNull
  | .bool b => v.asBool? == some b
  | _ => false

/-- The answer of a test for a column and its operand. -/
def answer (k : Tests) : ColumnTest → Value → Value → Truth
  | .compare op => k.compared op
  | .like => k.like
  | .ilike => k.ilike
  | .is => fun v operand => .ofBool (isAs v operand)
  | .oneOf => k.oneOf

end Tests

namespace Comparison

/-- Whether two values in this order satisfy the comparison. -/
def admits : Comparison → Ordering → Bool
  | .eq => Ordering.isEq
  | .ne => Ordering.isNe
  | .gt => Ordering.isGT
  | .gte => Ordering.isGE
  | .lt => Ordering.isLT
  | .lte => Ordering.isLE

theorem admits_reversed (op : Comparison) (o : Ordering) :
    op.reversed.admits o.swap = op.admits o := by
  cases op <;> cases o <;> rfl

end Comparison

/-- Whether a text matches a pattern, in which an asterisk stands for any run of characters. -/
def matchesPattern : List Char → List Char → Bool
  | [], s => s.isEmpty
  | '*' :: p, s => s.tails.any (matchesPattern p)
  | _ :: _, [] => false
  | c :: p, d :: s => c == d && matchesPattern p s

namespace Tests

/-- Integers and texts have an order among themselves. -/
def order? : Value → Value → Option Ordering
  | .int a, .int b => some (Ord.compare a.toInt b.toInt)
  | .text a, .text b => some (Ord.compare a b)
  | _, _ => none

theorem order?_swap (a b : Value) : order? b a = (order? a b).map Ordering.swap := by
  cases a <;> cases b <;> simp only [order?, Option.map_some, Option.map_none]
  case int.int a b => rw [Std.OrientedOrd.eq_swap]
  case text.text a b => rw [Std.OrientedOrd.eq_swap]

def compareScalars (op : Comparison) (a b : Value) : Truth :=
  ((order? a b).map fun o => Truth.ofBool (op.admits o)).getD .unknown

def matchText : Value → Value → Truth
  | .text s, .text p => .ofBool (matchesPattern p.toList s.toList)
  | _, _ => .unknown

def memberOf (v : Value) : Value → Truth
  | .list items => items.foldr (fun item t => (compareScalars .eq v item).or t) .no
  | _ => .unknown

/-- The tests on integers and texts. -/
def scalars : Tests where
  compare := compareScalars
  like := matchText
  ilike
    | .text s, .text p => matchText (.text (Text.lowercase s)) (.text (Text.lowercase p))
    | _, _ => .unknown
  oneOf := memberOf
  compare_reversed op a b := by
    rw [compareScalars, order?_swap, compareScalars]
    cases order? a b <;> simp [op.admits_reversed]

end Tests

/-- A row of a table by column. -/
abbrev TableRow := String → Value

/-- The answer of a filter for the value of its column, with the operand that a request carries. -/
def Filter.answer (k : Tests) (f : Filter) (value operand : Value) : Truth :=
  let (op, negated) := f.effective operand
  if negated then (k.answer op value operand).not else k.answer op value operand

/-- The answer of a row to a filter. -/
def Filter.truth (k : Tests) (bag : Bag) (row : TableRow) (f : Filter) : Truth :=
  match f.operand.valueIn bag with
  | .ok v => f.answer k (row f.column) v
  | .error _ => .unknown

namespace Filter

def passes (k : Tests) (bag : Bag) (row : TableRow) (f : Filter) : Bool :=
  f.truth k bag row == .yes

@[simp] theorem passes_eq_true {k : Tests} {bag : Bag} {row : TableRow} {f : Filter} :
    f.passes k bag row = true ↔ f.truth k bag row = .yes := beq_iff_eq

end Filter

/-- A row passes all filters, and a filter of each group. -/
def Conditions.pass (k : Tests) (bag : Bag) (row : TableRow) (c : Conditions) : Bool :=
  c.filters.all (Filter.passes k bag row) && c.groups.all (·.any (Filter.passes k bag row))

namespace CallName

/-- The pattern of a method: its text, with an asterisk on each side where more may stand. -/
def around (method : CallName) (text : String) : String :=
  (if method = .startsWith then "" else "*") ++ text ++ (if method = .endsWith then "" else "*")

end CallName

namespace Expr

section

variable (k : Tests) (m : Entity) (bag : Bag) (row : TableRow)

/-- The value of an operand: of a column, a constant or a parameter. -/
def value? : Expr → Option Value
  | .convert e => value? e
  | .column p => (m.column? p).map row
  | .const v => some v
  | .param name => bag.find? name
  | _ => none

/-- Null is given as the operand. -/
def namesNull : Expr → Bool
  | .convert e => namesNull e
  | .const v => v.isNull
  | .param name => (bag.find? name).any Value.isNull
  | _ => false

/-- The pattern that a text method looks for. -/
def patternOf (method : CallName) (arg : Expr) : Option Value :=
  match arg.stripped with
  | .const (.text s) => some (.text (method.around s))
  | e => e.value? m bag row

/-- The answer of a test of two operands, if both have values. -/
def asked (test : Value → Value → Truth) : Option Value → Option Value → Truth
  | some a, some b => test a b
  | _, _ => .unknown

/-- A comparison with the value null is for being null or not. -/
def nullTest (op : Comparison) (v : Value) : Truth :=
  match op with
  | .eq => .ofBool v.isNull
  | .ne => .ofBool !v.isNull
  | _ => .unknown

def comparison (op : Comparison) (left right : Expr) : Truth :=
  let test :=
    if right.namesNull bag then fun a _ => nullTest op a
    else if left.namesNull bag then fun _ b => nullTest op b
    else k.compared op
  asked test (left.value? m bag row) (right.value? m bag row)

def isColumn (e : Expr) : Bool :=
  match e.stripped with
  | .column _ => true
  | _ => false

/-- A call of a text method on a column, of a list with an item, or of a match with a pattern. -/
def called (method : CallName) (target : Option Expr) (args : List Expr) : Truth :=
  match method, target, args with
  | .contains, some e, [arg] =>
    if e.isColumn then asked k.like (e.value? m bag row) (patternOf m bag row .contains arg)
    else asked k.oneOf (arg.value? m bag row) (e.value? m bag row)
  | .startsWith, some e, [arg] =>
    asked k.like (e.value? m bag row) (patternOf m bag row .startsWith arg)
  | .endsWith, some e, [arg] =>
    asked k.like (e.value? m bag row) (patternOf m bag row .endsWith arg)
  | .contains, none, [list, item] => asked k.oneOf (item.value? m bag row) (list.value? m bag row)
  | .like, none, [e, pattern] => asked k.like (e.value? m bag row) (pattern.value? m bag row)
  | .ilike, none, [e, pattern] => asked k.ilike (e.value? m bag row) (pattern.value? m bag row)
  | _, _, _ => .unknown

/-- The answer of a row to a predicate. -/
def truth : Expr → Truth
  | .convert e => truth e
  | .and l r => (truth l).and (truth r)
  | .or l r => (truth l).or (truth r)
  | .not e => (truth e).not
  | .compare op l r => comparison k m bag row op l r
  | .call method target args => called k m bag row method target args
  | e => ((e.value? m bag row).map Truth.ofValue).getD .unknown

end

end Expr

end RemoteTable
