import RemoteTable.Url.Basic

/-!
Requests, responses and the endpoint that requests go to. Who carries a request to the remote is
not decided here: a transport is any function that answers requests and may keep a state.
-/

namespace RemoteTable

inductive Method where
  | get
  | post
  | patch
  | delete
  deriving DecidableEq

namespace Method

def name : Method → String
  | .get => "GET"
  | .post => "POST"
  | .patch => "PATCH"
  | .delete => "DELETE"

def all : List Method := [.get, .post, .patch, .delete]

/-- The method of a name. Names of methods are upper case. -/
def ofName? (name : String) : Option Method := all.find? (fun m => m.name == name)

def hasBody (m : Method) : Bool := m == .post || m == .patch

end Method

/-- Header names with their values. -/
abbrev Headers := List (String × String)

/-- Whether two texts agree up to the case of the letters of ASCII. -/
def sameIgnoringCase (a b : String) : Bool := a.toList.map Char.toLower == b.toList.map Char.toLower

structure Request where
  method : Method
  url : Url
  headers : Headers
  body : Option String
  deriving DecidableEq

/-- The first value of a header. -/
def Request.header? (r : Request) (name : String) : Option String :=
  (r.headers.find? (fun h => sameIgnoringCase h.1 name)).map Prod.snd

structure Response where
  status : Nat
  body : ByteArray

def Response.isSuccess (r : Response) : Bool := decide (200 ≤ r.status ∧ r.status < 300)

theorem Response.isSuccess_iff {r : Response} :
    r.isSuccess = true ↔ 200 ≤ r.status ∧ r.status < 300 := decide_eq_true_iff

/-- Why a request got no response. -/
inductive SendError where
  | timeout
  | connection (reason : String)
  | other (message : String)
  deriving DecidableEq

def SendError.message : SendError → String
  | .timeout => "request timed out"
  | .connection reason => "connection failed: " ++ reason
  | .other message => message

/-- What became of a request. -/
abbrev Outcome := Except SendError Response

/-- A way of sending requests, with whatever state it keeps between them. -/
structure Transport (σ : Type) where
  send : σ → Request → Outcome × σ

/-- Where requests go, and what each of them carries. -/
structure Endpoint where
  baseUrl : Url
  token : Option String
  schema : String

namespace Endpoint

/-- The schema that the remote serves if no other is asked for. -/
def defaultSchema : String := "public"

def ofUrl (u : Url) : Endpoint := ⟨u, none, defaultSchema⟩

def accept : String × String := ("Accept", "application/json")

def authorization (e : Endpoint) : Headers :=
  match e.token with
  | some t => [("Authorization", "Bearer " ++ t)]
  | none => []

/-- A header that names the schema, unless it is the default one. -/
def profile (e : Endpoint) (name : String) : Headers :=
  if e.schema = defaultSchema then [] else [(name, e.schema)]

/-- The headers of a read. -/
def headersToRead (e : Endpoint) : Headers :=
  accept :: e.authorization ++ e.profile "Accept-Profile"

/-- The headers of a write. The rows that it returns are read from the same schema. -/
def headersToWrite (e : Endpoint) (m : Method) : Headers :=
  accept :: (if m.hasBody then [("Content-Type", "application/json")] else []) ++
    ("Prefer", "return=representation") :: e.authorization ++
    e.profile "Accept-Profile" ++ e.profile "Content-Profile"

end Endpoint

end RemoteTable
