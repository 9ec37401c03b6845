import RemoteTable.Query.Pipeline

/-!
The query string of a query: one pair per clause, in a fixed order, with the parameters filled in.
-/

namespace RemoteTable

/-- The pairs of a query string. -/
structure QueryString where
  pairs : List (String × String)
  deriving DecidableEq

namespace QueryString

def empty : QueryString := ⟨[]⟩

def isEmpty (q : QueryString) : Bool := q.pairs.isEmpty

/-- The values of a key. -/
def valuesOf (q : QueryString) (key : String) : List String :=
  (q.pairs.filter (fun p => p.1 == key)).map Prod.snd

/-- The first value of a key. -/
def get? (q : QueryString) (key : String) : Option String := (q.valuesOf key).head?

/-- The pairs as they are, without any escaping. -/
def text (q : QueryString) : String := "&".intercalate (q.pairs.map (fun p => p.1 ++ "=" ++ p.2))

end QueryString

/-- The value of an operand. -/
def Operand.valueIn (bag : Bag) : Operand → Except Fault Value
  | .literal v => .ok v
  | .param name => bag.valueOf name

/-- The number of rows that a page bound stands for. -/
def RowCount.valueIn (bag : Bag) : RowCount → Except Fault UInt64
  | .known n => .ok n
  | .param name => do
    let v ← bag.valueOf name
    match v.asCount? with
    | some n => .ok n
    | none => .error (.notACount name)

namespace Filter

/-- Equality with a value that turns out to be null is the test for null. -/
def effective (f : Filter) (v : Value) : ColumnTest × Bool :=
  match f.op with
  | .compare .eq => if v.isNull then (.is, f.negated) else (f.op, f.negated)
  | .compare .ne => if v.isNull then (.is, !f.negated) else (f.op, f.negated)
  | op => (op, f.negated)

/-- The text of the operand of a test; inside a group it is an item. -/
def operandText (column : String) (grouped : Bool) (op : ColumnTest) (v : Value) :
    Except Fault String :=
  match op with
  | .oneOf => .ok v.listText
  | .is =>
    match v with
    | .null => .ok v.wireText
    | .bool _ => .ok v.wireText
    | v => .error (.notATruthValue v)
  | _ =>
    if v.isList then .error (.listOperand column)
    else .ok (if grouped then v.itemText else v.wireText)

/-- What a filter says about its column. -/
def segment (bag : Bag) (grouped : Bool) (f : Filter) : Except Fault String := do
  let v ← f.operand.valueIn bag
  let (op, negated) := f.effective v
  let text ← operandText f.column grouped op v
  .ok ((if negated then "not." else "") ++ op.label ++ "." ++ text)

/-- A filter as a clause of its own. -/
def pair (bag : Bag) (f : Filter) : Except Fault (String × String) :=
  (f.segment bag false).map (fun s => (f.column, s))

/-- A filter as a branch of a group. -/
def branch (bag : Bag) (f : Filter) : Except Fault String :=
  (f.segment bag true).map (fun s => f.column ++ "." ++ s)

/-- A group of filters as a clause. -/
def groupPair (bag : Bag) (g : List Filter) : Except Fault (String × String) :=
  (g.mapM (branch bag)).map (fun l => ("or", "(" ++ ",".intercalate l ++ ")"))

end Filter

def SortKey.text (c : SortKey) : String := c.column ++ "." ++ c.direction.label

/-- A page bound as a clause. -/
def RowCount.pair (bag : Bag) (key : String) (b : Option RowCount) :
    Except Fault (List (String × String)) :=
  match b with
  | none => .ok []
  | some b => (b.valueIn bag).map (fun n => [(key, String.ofList (Text.digits n.toNat))])

namespace Query

def selectPairs (q : Query) : List (String × String) :=
  if q.select.isEmpty then [] else [("select", ",".intercalate q.select)]

def orderPairs (q : Query) : List (String × String) :=
  if q.order.isEmpty then [] else [("order", ",".intercalate (q.order.map SortKey.text))]

/-- The query string: columns, filters, groups, ordering, and the two page bounds. -/
def queryString (q : Query) (bag : Bag) : Except Fault QueryString := do
  let filters ← q.conditions.filters.mapM (Filter.pair bag)
  let groups ← q.conditions.groups.mapM (Filter.groupPair bag)
  let offset ← RowCount.pair bag "offset" q.offset
  let limit ← RowCount.pair bag "limit" q.limit
  .ok ⟨q.selectPairs ++ filters ++ groups ++ q.orderPairs ++ offset ++ limit⟩

end Query

/-- The address of a table with a query string. -/
def Endpoint.tableUrl (base : Url) (table : String) (q : QueryString) : Except Fault Url :=
  match base.ofTable? table q.pairs with
  | some u => .ok u
  | none => .error (.noPath base)

/-- The request that a query sends. -/
def PreparedQuery.request (c : PreparedQuery) (e : Endpoint) (bag : Bag) :
    Except Fault Request := do
  let q ← c.query.queryString bag
  let url ← Endpoint.tableUrl e.baseUrl c.query.table q
  .ok ⟨.get, url, e.headersToRead, none⟩

end RemoteTable
