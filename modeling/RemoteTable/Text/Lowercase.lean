import RemoteTable.Text.CharSet
import RemoteTable.Text.CaseTable

/-!
Lower-casing of whole texts. Two characters need more than a table: a capital I with a dot keeps
its dot as a separate mark, and a capital sigma that ends a word takes its final form.
-/

namespace RemoteTable.Text

/-- The lower-case form of one character by itself. -/
def lowerChar (c : Char) : Char :=
  let n := c.toNat
  let covers (r : CaseRun) : Bool :=
    decide (r.first ≤ n ∧ n ≤ r.last) && (n - r.first) % r.step == 0
  match caseRuns.find? covers with
  | some r => Char.ofNat (n + r.offset).toNat
  | none => c

def isCased (c : Char) : Bool := within casedBounds c.toNat

def isCaseIgnorable (c : Char) : Bool := within caseIgnorableBounds c.toNat

/-- Whether the first character that counts is a cased one. -/
def meetsCased (s : List Char) : Bool :=
  match s.dropWhile isCaseIgnorable with
  | [] => false
  | c :: _ => isCased c

/-- Lower-cases a text of which `before` has been read, the nearest character first. -/
def lowerFrom (before : List Char) : List Char → List Char
  | [] => []
  | c :: r =>
    (if c = 'Σ' then [if meetsCased before && !meetsCased r then 'ς' else 'σ']
     else if c = 'İ' then ['i', Char.ofNat 0x307]
     else [lowerChar c]) ++ lowerFrom (c :: before) r

def lowercase (s : String) : String := String.ofList (lowerFrom [] s.toList)

end RemoteTable.Text
