import RemoteTable.Load.Rows
import RemoteTable.Save.Dispatch
import RemoteTable.Settings.Basic

/-!
Clients: a schema and an endpoint, with a transport of the host's choice. What goes wrong reaches the
caller of a client as the fault itself: kind, origin, message and rejection stay what they are.
-/

namespace RemoteTable

/-- A client of the remote. -/
structure Client (σ : Type) where
  transport : Transport σ
  schema : Schema
  endpoint : Endpoint
  /-- How long the transport should wait for a response, in milliseconds. -/
  timeout : Option Nat

namespace Client

variable {σ α : Type} {n : Nat}

def ofEndpoint (t : Transport σ) (s : Schema) (e : Endpoint) : Client σ := ⟨t, s, e, none⟩

/-- The client of some settings. What is wrong with them reaches the caller by its message. -/
def ofSettings (t : Transport σ) (s : Schema) (settings : Settings) :
    Except SettingsError (Client σ) := do
  let e ← settings.endpoint
  .ok ⟨t, s, e, settings.timeout⟩

/-- Starts a query of a registered entity type. -/
def query (c : Client σ) (entity : String) : Except Fault Pipeline :=
  match c.schema.get? entity with
  | some m => .ok (.start m)
  | none => .error (.unregistered .query entity)

/-- The request that a query would send. -/
def request (c : Client σ) (q : PreparedQuery) (bag : Bag) : Except Fault Request :=
  q.request c.endpoint bag

/-- All shaped rows of a query. -/
def fetch (c : Client σ) (q : PreparedQuery) (bag : Bag) (s : σ) :
    Except Fault (Rows Shape) × Log × σ :=
  Load.fetch c.transport c.endpoint q bag s

/-- All rows of a query, read into a type. -/
def fetchAs (c : Client σ) (d : Delivery) (target : Target α) (q : PreparedQuery) (bag : Bag)
    (s : σ) : Except Fault (Rows α) × Log × σ :=
  Load.fetchAs d target c.transport c.endpoint q bag s

/-- Saves a batch. -/
def save (c : Client σ) (entries : Vector Entry n) (s : σ) : SaveRun σ n :=
  Save.saveAll ⟨c.schema, c.endpoint, c.transport, true⟩ entries s

end Client

end RemoteTable
