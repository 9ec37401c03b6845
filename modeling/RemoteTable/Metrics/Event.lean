import RemoteTable.Http

/-!
What is reported while queries run and changes are saved.
-/

namespace RemoteTable

/-- What a request does. -/
inductive Operation where
  | load
  | insert
  | update
  | delete
  deriving DecidableEq

def Operation.label : Operation → String
  | .load => "load"
  | .insert => "insert"
  | .update => "update"
  | .delete => "delete"

/-- An event for whoever counts. -/
inductive Event where
  | start (operation : Operation) (table : String)
  | finish (operation : Operation) (table : String) (rows : Nat)
  /-- A query operator was left to the host. -/
  | fallback (table reason : String)
  /-- A delete was left to the cascade of the store. -/
  | elided (table : String)
  /-- A request failed; there is no status if it got no response. -/
  | failed (operation : Operation) (table : String) (status : Option Nat)
  deriving DecidableEq

end RemoteTable
