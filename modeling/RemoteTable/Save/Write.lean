import RemoteTable.Change.Entry
import RemoteTable.Query.QueryString

/-!
The requests of changes. An insert posts the mapped properties, except those whose value the store
is to assign; an update patches the modified ones; updates and deletes find their row by the key
that the store last had.
-/

namespace RemoteTable

/-- What a request does to its row. -/
inductive Write where
  | insert
  | update
  | delete
  deriving DecidableEq

namespace Write

def method : Write → Method
  | .insert => .post
  | .update => .patch
  | .delete => .delete

def operation : Write → Operation
  | .insert => .insert
  | .update => .update
  | .delete => .delete

/-- The write that a state calls for. -/
def ofState (entity : String) (state : ChangeState) : Except Fault Write :=
  match state with
  | .added => .ok .insert
  | .modified => .ok .update
  | .deleted => .ok .delete
  | state => .error (.noRequest entity state)

end Write

namespace Entity

/-- The test that finds a row by one property of its key. -/
def rowFilter (m : Entity) (e : Entry) (property : String) : Except Fault Filter :=
  match m.column? property with
  | none => .error (.keyNotMapped m.name property)
  | some column =>
    if (e.stored property).isNull then .error (.noStoredKey m.name property)
    else .ok ⟨column, .compare .eq, false, .literal (e.stored property)⟩

/-- The tests that find a row by its key. -/
def rowFilters (m : Entity) (e : Entry) : Except Fault (List Filter) :=
  if m.hasKey then m.key.mapM (m.rowFilter e) else .error (.noKey m.name)

/-- The write of an entry, if a request can be made of it. -/
def writeOf (m : Entity) (e : Entry) : Except Fault Write := do
  let w ← Write.ofState m.name e.state
  if w = .insert then .ok w
  else do
    let _ ← m.rowFilters e
    .ok w

/-- The members of a body for some of the fields. -/
def bodyOf (e : Entry) (fields : List Field) : Json :=
  .ofMembers (fields.map fun f => (f.column, (e.current f.name).toJson))

def newRowBody (m : Entity) (e : Entry) : Json :=
  bodyOf e (m.fields.filter fun f => !(f.storeGenerated && e.isTemporary f.name))

def changesBody (m : Entity) (e : Entry) : Json :=
  bodyOf e (m.fields.filter fun f => e.isChanged f.name)

/-- The query string that finds a row by its key. -/
def rowQuery (m : Entity) (e : Entry) : Except Fault QueryString := do
  let filters ← m.rowFilters e
  Query.queryString { Query.ofTable m.table with conditions := ⟨filters, []⟩ } .empty

/-- The request of an entry. -/
def request (m : Entity) (e : Entry) (endpoint : Endpoint) : Except Fault Request := do
  let w ← Write.ofState m.name e.state
  let query ← if w = .insert then .ok .empty else m.rowQuery e
  let url ← Endpoint.tableUrl endpoint.baseUrl m.table query
  let body :=
    match w with
    | .insert => some (m.newRowBody e).text
    | .update => some (m.changesBody e).text
    | .delete => none
  .ok ⟨w.method, url, endpoint.headersToWrite w.method, body⟩

end Entity

end RemoteTable
