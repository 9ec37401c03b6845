import RemoteTable.Query.QueryString

/-!
Query strings read back. A value that holds several parts is divided at commas, except where quotes
or parentheses hold a part together; a part in quotes stands for what is between them.
-/

namespace RemoteTable

/-- What a filter of a query string compares its column with. -/
inductive ClauseOperand where
  | text (s : String)
  | items (l : List String)
  deriving DecidableEq

/-- A filter of a query string. -/
structure FilterClause where
  column : String
  negated : Bool
  op : ColumnTest
  operand : ClauseOperand
  deriving DecidableEq

/-- What a query string says. -/
structure Clauses where
  /-- The columns to return; none stands for all. -/
  select : List String
  filters : List FilterClause
  groups : List (List FilterClause)
  order : List SortKey
  offset : Option Nat
  limit : Option Nat
  deriving DecidableEq

namespace Clauses

def empty : Clauses := ⟨[], [], [], [], none, none⟩

/-- Where a reader is with respect to quotes. -/
inductive Quoting where
  | outside
  | inside
  /-- Behind a backslash that stands inside. -/
  | escaped
  deriving DecidableEq

/-- Where a reader is in a text. -/
structure Place where
  quoting : Quoting
  /-- The number of parentheses that are open. -/
  depth : Nat
  deriving DecidableEq

def Place.top : Place := ⟨.outside, 0⟩

/-- A character is read. Parentheses count only where they can hold a part together. -/
def Place.next (nested : Bool) (p : Place) (c : Char) : Place :=
  match p.quoting with
  | .outside =>
    if c = '"' then ⟨.inside, p.depth⟩
    else if nested ∧ c = '(' then ⟨.outside, p.depth + 1⟩
    else if nested ∧ c = ')' then ⟨.outside, p.depth - 1⟩
    else p
  | .inside =>
    if c = '"' then ⟨.outside, p.depth⟩
    else if c = '\\' then ⟨.escaped, p.depth⟩
    else p
  | .escaped => ⟨.inside, p.depth⟩

/-- Divides a text at the commas outside of quotes and, if they count, of parentheses. -/
def divide (nested : Bool) (p : Place) : List Char → List (List Char)
  | [] => [[]]
  | c :: r =>
    if p = .top ∧ c = ',' then [] :: divide nested p r
    else (divide nested (p.next nested c) r).modifyHead (c :: ·)

/-- Splits a text at its first dot. -/
def atDot? : List Char → Option (List Char × List Char)
  | [] => none
  | c :: r => if c = '.' then some ([], r) else (atDot? r).map fun (s, rest) => (c :: s, rest)

/-- Reads up to the first quote that has no backslash before it. -/
def toQuote? : List Char → Option (List Char × List Char)
  | [] => none
  | ['\\'] => none
  | '\\' :: c :: r => (toQuote? r).map fun (s, rest) => (c :: s, rest)
  | c :: r => if c = '"' then some ([], r) else (toQuote? r).map fun (s, rest) => (c :: s, rest)

/-- What an item stands for. Nothing may follow the quote that ends it. -/
def itemText? : List Char → Option (List Char)
  | '"' :: r =>
    match toQuote? r with
    | some (s, []) => some s
    | _ => none
  | s => some s

/-- What stands between the parentheses around a text. -/
def inParentheses? : List Char → Option (List Char)
  | '(' :: r => if r.getLast? = some ')' then some r.dropLast else none
  | _ => none

/-- The parts of a text in parentheses; nothing in between stands for no parts. -/
def parts? (nested : Bool) (s : List Char) : Option (List (List Char)) :=
  (inParentheses? s).map fun inner => if inner = [] then [] else divide nested .top inner

/-- The texts of the items of a list. -/
def items? (s : List Char) : Option (List (List Char)) :=
  (parts? false s).bind (List.mapM itemText?)

/-- Reads the operand of a test. In a group it is an item. -/
def operand? (grouped : Bool) (op : ColumnTest) (s : List Char) : Option ClauseOperand :=
  if op = .oneOf then (items? s).map fun l => .items (l.map String.ofList)
  else (if grouped then itemText? s else some s).map fun s => .text (String.ofList s)

/-- Reads a test and its operand. -/
def test? (grouped : Bool) (column : String) (negated : Bool) (name rest : List Char) :
    Option FilterClause := do
  let op ← ColumnTest.ofLabel? (String.ofList name)
  let operand ← operand? grouped op rest
  some ⟨column, negated, op, operand⟩

/-- Reads what a filter says about its column. -/
def segment? (grouped : Bool) (column : String) (s : List Char) : Option FilterClause := do
  let (name, rest) ← atDot? s
  if name = "not".toList then do
    let (name, rest) ← atDot? rest
    test? grouped column true name rest
  else test? grouped column false name rest

/-- Reads a branch of a group. -/
def branch? (s : List Char) : Option FilterClause := do
  let (column, rest) ← atDot? s
  segment? true (String.ofList column) rest

def group? (s : List Char) : Option (List FilterClause) :=
  (parts? true s).bind (List.mapM branch?)

def sortKey? (s : List Char) : Option SortKey := do
  let (column, rest) ← atDot? s
  if rest = "asc".toList then some ⟨String.ofList column, .asc⟩
  else if rest = "desc".toList then some ⟨String.ofList column, .desc⟩
  else none

/-- The keys of a query string that are not columns. -/
def reserved : List String := ["select", "or", "order", "offset", "limit"]

/-- Reads one more pair. -/
def enter (a : Clauses) (p : String × String) : Option Clauses :=
  let value := p.2.toList
  if p.1 = "select" then some { a with select := (value.splitOn ',').map String.ofList }
  else if p.1 = "or" then (group? value).map fun g => { a with groups := a.groups ++ [g] }
  else if p.1 = "order" then
    ((value.splitOn ',').mapM sortKey?).map fun l => { a with order := l }
  else if p.1 = "offset" then (Text.natural? value).map fun n => { a with offset := some n }
  else if p.1 = "limit" then (Text.natural? value).map fun n => { a with limit := some n }
  else (segment? false p.1 value).map fun f => { a with filters := a.filters ++ [f] }

theorem enter_select (a : Clauses) (value : String) : enter a ("select", value) =
    some { a with select := (value.toList.splitOn ',').map String.ofList } := by
  simp [enter]

theorem enter_or (a : Clauses) (value : String) : enter a ("or", value) =
    (group? value.toList).map fun g => { a with groups := a.groups ++ [g] } := by
  simp [enter]

theorem enter_order (a : Clauses) (value : String) : enter a ("order", value) =
    ((value.toList.splitOn ',').mapM sortKey?).map fun l => { a with order := l } := by
  simp [enter]

theorem enter_offset (a : Clauses) (value : String) : enter a ("offset", value) =
    (Text.natural? value.toList).map fun n => { a with offset := some n } := by
  simp [enter]

theorem enter_limit (a : Clauses) (value : String) : enter a ("limit", value) =
    (Text.natural? value.toList).map fun n => { a with limit := some n } := by
  simp [enter]

theorem enter_column (a : Clauses) {column : String} (h : column ∉ reserved) (value : String) :
    enter a (column, value) =
      (segment? false column value.toList).map fun f => { a with filters := a.filters ++ [f] } := by
  simp only [reserved, List.mem_cons, List.not_mem_nil, or_false, not_or] at h
  simp [enter, h]

/-- What the pairs of a query string say, if they can be read. -/
def ofPairs? (pairs : List (String × String)) : Option Clauses := pairs.foldlM enter empty

end Clauses

end RemoteTable
