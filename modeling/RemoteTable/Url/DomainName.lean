import RemoteTable.Text.Composition
import RemoteTable.Text.Lowercase
import RemoteTable.Text.Split
import RemoteTable.Url.FoldTable
import RemoteTable.Url.LabelTable
import RemoteTable.Url.Punycode

/-!
Domain names beyond ASCII. A name is folded to lower case and to the plain forms of its characters,
and composed; then every part is checked and encoded in ASCII. A part that comes encoded has to be
one that this encoding writes.
-/

namespace RemoteTable.Url.DomainName

open Text

/-- What a character contributes to a name; no name contains one without an answer. -/
def fold? (c : Char) : Option (List Char) :=
  let n := c.toNat
  if n < 128 then some [c.toLower]
  else if within ignoredBounds n then some []
  else if within refusedBounds n then none
  else match foldRuns.find? (fun r => decide (r.first ≤ n ∧ n ≤ r.last)) with
    | some r => ((splitAtChar ' ' r.words.toList).drop (n - r.first)).head?
    | none => some [lowerChar c]

/-- A text in the form that names have. -/
def prepare? (s : List Char) : Option (List Char) := do
  let folded ← s.mapM fold?
  some (composed folded.flatten)

/-- The ways in which characters take part in the direction of a text. -/
inductive Direction where
  | leftToRight
  | rightToLeft
  | europeanDigit
  | arabicDigit
  | nonspacing
  | neutral
  deriving DecidableEq

def direction (c : Char) : Direction :=
  let n := c.toNat
  if within nonspacingBounds n then .nonspacing
  else if within rightToLeftBounds n then .rightToLeft
  else if within europeanDigitBounds n then .europeanDigit
  else if within arabicDigitBounds n then .arabicDigit
  else if within neutralBounds n then .neutral
  else .leftToRight

/-- Whether a character makes the direction of its name matter. -/
def turns (c : Char) : Bool :=
  match direction c with
  | .rightToLeft | .arabicDigit => true
  | _ => false

/-- A part begins with a letter, ends in a letter or a number, marks aside, and has letters of one
direction only; numbers of the two kinds do not meet, and no Arabic one stands left to right. -/
def keepsDirection (label : List Char) : Bool :=
  match label.map direction with
  | [] => true
  | first :: rest =>
    let core := (rest.reverse.dropWhile (· == .nonspacing)).reverse
    let last := core.getLast?.getD first
    match first with
    | .leftToRight =>
      core.all (fun d => d != .rightToLeft && d != .arabicDigit) &&
        [.leftToRight, .europeanDigit].contains last
    | .rightToLeft =>
      core.all (· != .leftToRight) &&
        !(core.contains .europeanDigit && core.contains .arabicDigit) &&
        [.rightToLeft, .europeanDigit, .arabicDigit].contains last
    | _ => false

/-- The invisible character that keeps its neighbours from joining. -/
def nonJoiner : Char := Char.ofNat 0x200c

/-- The invisible character that makes its neighbours join. -/
def joiner : Char := Char.ofNat 0x200d

/-- Marks, most of them nonspacing ones, past which letters join. -/
def isTransparent (c : Char) : Bool :=
  within nonspacingBounds c.toNat != [0xcbf, 0xcc6, 0x1171e, 0x11a07, 0x11a08, 0x11c3f,
    0x1e94b].contains c.toNat

/-- Whether the nearest letter belongs to a set. -/
def meets (bounds : List Nat) (s : List Char) : Bool :=
  match s.dropWhile isTransparent with
  | [] => false
  | c :: _ => within bounds c.toNat

/-- Joiners follow a mark that kills a vowel; a non-joiner may also part two letters that join.
What has been read is given from its end. -/
def joinersFit (before : List Char) : List Char → Bool
  | [] => true
  | c :: r =>
    (if c = joiner ∨ c = nonJoiner then
      (before.head?.map combiningClass == some 9) ||
        (c == nonJoiner && meets joinsAfterBounds before && meets joinsBeforeBounds r)
    else true) && joinersFit (c :: before) r

def isAscii (s : List Char) : Bool := s.all (fun c => decide (c.toNat < 128))

/-- The mark of a part that is encoded. -/
def encodedMark : List Char := ['x', 'n', '-', '-']

/-- A part of a name, as it is read and as it is written. -/
structure Label where
  shown : List Char
  written : List Char

/-- Whether a part beyond ASCII is of a fair length, begins with no mark, and joins well. -/
def isLegible (shown : List Char) : Bool :=
  decide (shown.length ≤ 1000) && joinersFit [] shown &&
    match shown with
    | [] => true
    | c :: _ => !within markBounds c.toNat

/-- Reads a part of a prepared name. -/
def label? (s : List Char) : Option Label :=
  if encodedMark.isPrefixOf s then do
    let code := s.drop 4
    let shown ← if isAscii code ∧ code.length ≤ 2000 then Punycode.decode? code else none
    if isAscii shown || encodedMark.isPrefixOf shown || prepare? shown != some shown ||
        !isLegible shown then none
    else some ⟨shown, s⟩
  else if isAscii s then some ⟨s, s⟩
  else if isLegible s then some ⟨s, encodedMark ++ Punycode.encode s⟩
  else none

/-- A name in ASCII. -/
def ascii? (s : List Char) : Option (List Char) := do
  let prepared ← prepare? s
  let labels ← (splitAtChar '.' prepared).mapM label?
  if labels.any (fun l => l.shown.any turns) && !labels.all (fun l => keepsDirection l.shown) then
    none
  else some (joinWith '.' (labels.map Label.written))

end RemoteTable.Url.DomainName
