import RemoteTable.Calendar.Timestamp
import RemoteTable.Json.Basic
import RemoteTable.Number.Decimal
import RemoteTable.Uuid

/-!
Values: the scalars that filters, request bodies and decoded rows carry, and lists of them.
-/

namespace RemoteTable

/-- A value of a column, or a list of values. `null` also stands for a column that a row lacks. -/
inductive Value where
  | blob (bytes : List UInt8)
  | bool (b : Bool)
  | date (d : Date)
  | decimal (d : Decimal)
  | float32 (x : Binary32)
  | float64 (x : Binary64)
  | int (n : Int64)
  | json (j : Json)
  | list (items : List Value)
  | null
  | text (s : String)
  | time (t : Time)
  | timestamp (t : Timestamp)
  | timestampLocal (t : LocalTimestamp)
  | uint (n : UInt64)
  | uuid (u : Uuid)

namespace Value

instance : Inhabited Value := ⟨.null⟩

def isNull : Value → Bool
  | .null => true
  | _ => false

def isList : Value → Bool
  | .list _ => true
  | _ => false

def asText? : Value → Option String
  | .text s => some s
  | _ => none

def asBool? : Value → Option Bool
  | .bool b => some b
  | _ => none

/-- The value as a count; negative integers are none. -/
def asCount? : Value → Option UInt64
  | .int n => if 0 ≤ n.toInt then some (UInt64.ofNat n.toInt.toNat) else none
  | .uint n => some n
  | _ => none

/-- The value as a signed integer; what is too large is none. -/
def asInt? : Value → Option Int64
  | .int n => some n
  | .uint n => if n.toNat ≤ Int64.maxValue.toInt then some (Int64.ofNat n.toNat) else none
  | _ => none

end Value

end RemoteTable
