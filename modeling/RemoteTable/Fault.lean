import RemoteTable.Change.State
import RemoteTable.Http
import RemoteTable.Json.Reader
import RemoteTable.Value.Describe
import RemoteTable.Value.Reader

/-!
Faults: everything that can go wrong between a query or a batch of changes and its result. A fault
is its cause; class, origin and message are read off it.
-/

namespace RemoteTable

/-- The kind of a fault. -/
inductive FaultClass where
  | cardinality
  | decode
  | invalidState
  | noPrimaryKey
  | request
  | transport
  | unsupported
  deriving DecidableEq

/-- The part of the library where a fault arose. -/
inductive Origin where
  | codec
  | load
  | mutation
  | query
  | relation
  | transport
  deriving DecidableEq

namespace FaultClass

def label : FaultClass → String
  | .cardinality => "cardinality"
  | .decode => "decode"
  | .invalidState => "invalid_state"
  | .noPrimaryKey => "no_primary_key"
  | .request => "request"
  | .transport => "transport"
  | .unsupported => "unsupported"

end FaultClass

namespace Origin

def label : Origin → String
  | .codec => "codec"
  | .load => "load"
  | .mutation => "mutation"
  | .query => "query"
  | .relation => "relation"
  | .transport => "transport"

end Origin

/-- A request that the remote answered with a status of failure, and what it said about it. -/
structure Rejection where
  status : Nat
  message : Option String
  details : Option String
  hint : Option String
  code : Option String
  deriving DecidableEq

namespace Rejection

/-- The texts that the body holds under known names; a body that is no object holds none. -/
def ofResponse (r : Response) : Rejection :=
  let members : JsonMembers :=
    match Json.ofBytes? r.body with
    | some (.object members) => members
    | _ => []
  let text (name : String) : Option String :=
    match members.lookup name with
    | some (.string s) => some s
    | _ => none
  ⟨r.status, text "message", text "details", text "hint", text "code"⟩

def text (r : Rejection) : String :=
  let part (front : String) (back : String) : Option String → String
    | some s => front ++ s ++ back
    | none => ""
  "request failed with status " ++ String.ofList (Text.digits r.status) ++ part " [" "]" r.code ++
    part ": " "" r.message ++ part " (" ")" r.details ++ part "; hint: " "" r.hint

end Rejection

/-- What a response body was found to be instead of rows. -/
inductive BodyError where
  /-- No document. Where and why the reader of documents gave up, which a message may add after a
  colon, is left out. -/
  | notJson
  | elementNotObject (index : Nat) (element : Json)
  | notRows (body : Json)

def BodyError.message : BodyError → String
  | .notJson => "response is not valid JSON"
  | .elementNotObject index element =>
    "response element " ++ String.ofList (Text.digits index) ++ " is not an object: " ++
      element.text
  | .notRows body => "response must be an array or an object, got " ++ body.text

/-- A cause of failure. -/
inductive Fault where
  /-- No entity type of this name is registered. -/
  | unregistered (origin : Origin) (entity : String)
  /-- An entry of a batch is in no state that can be saved. -/
  | notPending (position : Nat) (entity : String) (state : ChangeState)
  /-- There is no request for an entry in this state. -/
  | noRequest (entity : String) (state : ChangeState)
  | noKey (entity : String)
  | keyNotMapped (entity property : String)
  | noStoredKey (entity property : String)
  | unboundParameter (name : String)
  | notACount (parameter : String)
  | listOperand (column : String)
  /-- The operand of a test for null or a truth value is neither. -/
  | notATruthValue (operand : Value)
  | noPath (base : Url)
  | badBody (origin : Origin) (error : BodyError)
  | badField (origin : Origin) (entity property : String) (error : DecodeError)
  | badValue (error : DecodeError)
  /-- A shaped row is not of the requested type. Why the type did not take it, which a message may add
  after a colon, is left out. -/
  | badShape (target : String)
  | noRow (table : String)
  | manyRows (table : String) (count : Nat)
  | rejected (rejection : Rejection)
  | undelivered (error : SendError)

namespace Fault

/-- The kind of a fault. A client hands a fault on to its caller as an error with a kind and an
origin of the same names, the same message and the same rejection, so that the error is not told
apart from the fault here. -/
def kind : Fault → FaultClass
  | .unregistered .. => .invalidState
  | .notPending .. => .invalidState
  | .noRequest .. => .invalidState
  | .noKey _ => .noPrimaryKey
  | .keyNotMapped .. => .invalidState
  | .noStoredKey .. => .invalidState
  | .unboundParameter _ => .unsupported
  | .notACount _ => .unsupported
  | .listOperand _ => .unsupported
  | .notATruthValue _ => .unsupported
  | .noPath _ => .invalidState
  | .badBody .. => .decode
  | .badField .. => .decode
  | .badValue _ => .decode
  | .badShape _ => .decode
  | .noRow _ => .cardinality
  | .manyRows .. => .cardinality
  | .rejected _ => .request
  | .undelivered _ => .transport

def origin : Fault → Origin
  | .unregistered origin _ => origin
  | .notPending .. => .relation
  | .noRequest .. => .mutation
  | .noKey _ => .mutation
  | .keyNotMapped .. => .mutation
  | .noStoredKey .. => .mutation
  | .unboundParameter _ => .query
  | .notACount _ => .query
  | .listOperand _ => .query
  | .notATruthValue _ => .query
  | .noPath _ => .transport
  | .badBody origin _ => origin
  | .badField origin .. => origin
  | .badValue _ => .codec
  | .badShape _ => .load
  | .noRow _ => .load
  | .manyRows .. => .load
  | .rejected _ => .transport
  | .undelivered _ => .transport

def message : Fault → String
  | .unregistered _ entity => "entity '" ++ entity ++ "' is not registered"
  | .notPending position entity state =>
    "entry " ++ String.ofList (Text.digits position) ++ " (" ++ entity ++ ") is " ++ state.label ++
      "; only added, modified and deleted entries can be saved"
  | .noRequest entity state =>
    "cannot build a request for " ++ entity ++ " in state " ++ state.label
  | .noKey entity =>
    "entity '" ++ entity ++ "' has no primary key; update and delete require one"
  | .keyNotMapped entity property =>
    entity ++ "." ++ property ++ " is a key but has no mapped column"
  | .noStoredKey entity property => entity ++ "." ++ property ++ " has no original key value"
  | .unboundParameter name => "parameter '" ++ name ++ "' has no value"
  | .notACount parameter => "parameter '" ++ parameter ++ "' is not a non-negative integer"
  | .listOperand column => "column '" ++ column ++ "' compared against a list"
  | .notATruthValue operand => "'is' accepts null or a boolean, got " ++ operand.describe
  | .noPath base => "base url '" ++ base.text ++ "' cannot carry a path"
  | .badBody _ error => error.message
  | .badField _ entity property error => entity ++ "." ++ property ++ ": " ++ error.message
  | .badValue error => error.message
  | .badShape target => "cannot shape row into " ++ target
  | .noRow table => "expected exactly one row, found 0 (table " ++ table ++ ")"
  | .manyRows table count =>
    "expected exactly one row, found " ++ String.ofList (Text.digits count) ++ " (table " ++
      table ++ ")"
  | .rejected rejection => rejection.text
  | .undelivered error => error.message

/-- What the remote said, if it rejected the request. -/
def rejection? : Fault → Option Rejection
  | .rejected r => some r
  | _ => none

/-- The message with origin and class before it. -/
def messageWithClass (f : Fault) : String :=
  f.origin.label ++ ":" ++ f.kind.label ++ ": " ++ f.message

end Fault

end RemoteTable
