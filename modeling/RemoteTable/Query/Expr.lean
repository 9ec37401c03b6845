import RemoteTable.Value.Basic

/-!
Predicates and projections over the one subject of a query, as trees.
-/

namespace RemoteTable

inductive Comparison where
  | eq
  | ne
  | gt
  | gte
  | lt
  | lte
  deriving DecidableEq

/-- The comparison that holds with its sides exchanged. -/
def Comparison.reversed : Comparison → Comparison
  | .eq => .eq
  | .ne => .ne
  | .gt => .lt
  | .gte => .lte
  | .lt => .gt
  | .lte => .gte

inductive Arithmetic where
  | add
  | sub
  | mul
  | div
  deriving DecidableEq

/-- A method that a predicate calls. -/
inductive CallName where
  | contains
  | startsWith
  | endsWith
  /-- A match with a pattern in which an asterisk stands for any run of characters. -/
  | like
  /-- The same without regard to case. -/
  | ilike
  | other (name : String)
  deriving DecidableEq

def CallName.label : CallName → String
  | .contains => "Contains"
  | .startsWith => "StartsWith"
  | .endsWith => "EndsWith"
  | .like => "Like"
  | .ilike => "ILike"
  | .other name => name

/-- A predicate, or a part of one. -/
inductive Expr where
  /-- A property of the subject. -/
  | column (property : String)
  /-- A member of anything else. -/
  | member (target : Expr) (name : String)
  | const (v : Value)
  /-- A value that is supplied when the request is built. -/
  | param (name : String)
  /-- A conversion between types of the host, without a meaning of its own. -/
  | convert (e : Expr)
  | compare (op : Comparison) (left right : Expr)
  | and (left right : Expr)
  | or (left right : Expr)
  | arith (op : Arithmetic) (left right : Expr)
  | not (e : Expr)
  | call (method : CallName) (target : Option Expr) (args : List Expr)

namespace Expr

instance : Inhabited Expr := ⟨.const .null⟩

/-- The expression without the conversions around it. -/
def stripped : Expr → Expr
  | .convert e => stripped e
  | e => e

end Expr

/-- The shape of the rows that a query returns. -/
inductive Projection where
  /-- The whole subject. -/
  | subject
  | column (property : String)
  | const (v : Value)
  | param (name : String)
  | tuple (items : List Projection)
  | record (typeName : Option String) (fields : List (String × Projection))
  /-- A type built from arguments in order. -/
  | construct (typeName : String) (args : List Projection)

namespace Projection

instance : Inhabited Projection := ⟨.subject⟩

/-- A record of plain properties. -/
def ofProperties (properties : List String) : Projection :=
  .record none (properties.map (fun p => (p, .column p)))

end Projection

end RemoteTable
