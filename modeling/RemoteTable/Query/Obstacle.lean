/-!
What is in the way of a query operator: the reasons why the remote has no equivalent for it, so that
it is left to the host.
-/

namespace RemoteTable

inductive Obstacle where
  | unmapped (property : String)
  | notColumnAndValue
  | orderedNull
  | negatedGroup
  | nestedGroup
  | method (name : String)
  | notBoolean (property : String)
  | arithmetic
  | navigation
  | constant
  | parameter
  | computedKey
  | join
  | groupBy
  | distinct
  | aggregate
  | thenWithoutOrder
  | deferredSkipAfterTake
  | deferredRepeatedSkip
  | deferredRepeatedTake
  | afterSelect
  | afterPaging
  deriving DecidableEq

def Obstacle.message : Obstacle → String
  | .unmapped property => "property '" ++ property ++ "' is not mapped on this entity"
  | .notColumnAndValue => "comparison needs one subject column and one constant or parameter"
  | .orderedNull => "null can only be compared with == or !="
  | .negatedGroup => "negation must wrap exactly one filter"
  | .nestedGroup => "or-branches must be single filters"
  | .method name => "method '" ++ name ++ "' has no remote equivalent"
  | .notBoolean property => "'" ++ property ++ "' is not a boolean column"
  | .arithmetic => "arithmetic expressions are not translatable"
  | .navigation => "navigation expressions are not translatable"
  | .constant => "constant expressions are not translatable"
  | .parameter => "parameter expressions are not translatable"
  | .computedKey => "computed ordering key expressions are not translatable"
  | .join => "join has no remote equivalent"
  | .groupBy => "group_by has no remote equivalent"
  | .distinct => "distinct has no remote equivalent"
  | .aggregate => "aggregate has no remote equivalent"
  | .thenWithoutOrder => "then_by needs a preceding order_by"
  | .deferredSkipAfterTake => "skip after take needs literal counts"
  | .deferredRepeatedSkip => "repeated skip needs literal counts"
  | .deferredRepeatedTake => "repeated take needs literal counts"
  | .afterSelect => "operator follows select"
  | .afterPaging => "operator follows skip or take"

end RemoteTable
