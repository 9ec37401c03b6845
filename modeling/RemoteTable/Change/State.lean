/-!
The states of a tracked entry.
-/

namespace RemoteTable

/-- What is to become of the row of an entry. -/
inductive ChangeState where
  | detached
  | unchanged
  | added
  | modified
  | deleted
  deriving DecidableEq

namespace ChangeState

def label : ChangeState → String
  | .detached => "detached"
  | .unchanged => "unchanged"
  | .added => "added"
  | .modified => "modified"
  | .deleted => "deleted"

def all : List ChangeState := [.detached, .unchanged, .added, .modified, .deleted]

/-- The state of a name. -/
def ofLabel? (label : String) : Option ChangeState := all.find? (fun s => s.label == label)

theorem ofLabel?_label (s : ChangeState) : ofLabel? s.label = some s := by cases s <;> decide

end ChangeState

end RemoteTable
