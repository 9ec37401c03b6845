import RemoteTable.Text.Digits
import RemoteTable.Text.Split
import RemoteTable.Url.DomainName
import RemoteTable.Url.Percent

/-!
Hosts: names, and numeric addresses of both lengths in their one written form.
-/

namespace RemoteTable

/-- The host of an address. -/
inductive Host where
  | name (s : String)
  | v4 (address : Nat)
  | v6 (pieces : List Nat)
  deriving DecidableEq

namespace Host

open Text Url

/-- The natural that digits of a base stand for. -/
def numeralIn? (base : Nat) (s : List Char) : Option Nat :=
  s.foldlM (fun n c => do
    let d ← hexDigit? c
    if d.val < base then some (n * base + d.val) else none) 0

/-- A part of an address of four bytes: decimal, octal after a zero, hexadecimal after `0x`. -/
def part? (s : List Char) : Option Nat :=
  match s with
  | [] => none
  | '0' :: 'x' :: r => numeralIn? 16 r
  | '0' :: 'X' :: r => numeralIn? 16 r
  | '0' :: r => numeralIn? 8 r
  | s => numeralIn? 10 s

/-- The parts of a name between its points, an empty last one not counted. -/
def labels (s : List Char) : List (List Char) :=
  let parts := splitAtChar '.' s
  if 1 < parts.length ∧ parts.getLast? = some [] then parts.dropLast else parts

/-- Whether the last part of a name is a number, so that the name must be an address. -/
def endsInNumber (s : List Char) : Bool :=
  match (labels s).getLast? with
  | none => false
  | some last => (!last.isEmpty && last.all Char.isDigit) || (part? last).isSome

/-- Reads an address of four bytes; its last part fills all the bytes that are left. -/
def readV4? (s : List Char) : Option Nat := do
  let parts ← (labels s).mapM part?
  if 4 < parts.length then none
  else
    let last ← parts.getLast?
    let front := parts.dropLast
    if front.all (fun n => decide (n < 256)) ∧ last < Nat.pow 256 (4 - front.length) then
      some (front.foldl (fun n b => n * 256 + b) 0 * Nat.pow 256 (4 - front.length) + last)
    else none

/-- Two pieces from four decimal bytes, none of which starts with a needless zero. -/
def tailV4? (s : List Char) : Option (List Nat) := do
  let parts := splitAtChar '.' s
  let bytes ← parts.mapM (fun p => do
    let n ← natural? p
    if n < 256 ∧ (p.length = 1 ∨ p.head? ≠ some '0') then some n else none)
  match bytes with
  | [a, b, c, d] => some [a * 256 + b, c * 256 + d]
  | _ => none

/-- Pieces with colons between them; the last may be given as four bytes. -/
def pieces? : List (List Char) → Option (List Nat)
  | [] => some []
  | [s] =>
    if s.contains '.' then tailV4? s
    else if s.isEmpty ∨ 4 < s.length then none
    else (numeralIn? 16 s).map ([·])
  | s :: r => do
    if s.isEmpty ∨ 4 < s.length then none
    else
      let n ← numeralIn? 16 s
      let rest ← pieces? r
      some (n :: rest)

/-- Splits a text at the first pair of colons. -/
def splitAtGap : List Char → Option (List Char × List Char)
  | [] => none
  | ':' :: ':' :: r => some ([], r)
  | c :: r => (splitAtGap r).map (fun (a, b) => (c :: a, b))

/-- Reads an address of eight pieces; a pair of colons stands for zeros. -/
def readV6? (s : List Char) : Option (List Nat) :=
  let ofText (s : List Char) : Option (List Nat) :=
    if s.isEmpty then some [] else pieces? (splitAtChar ':' s)
  match splitAtGap s with
  | none => do
    let ps ← ofText s
    if ps.length = 8 then some ps else none
  | some (a, b) => do
    if a.contains '.' then none
    else
      let front ← ofText a
      let back ← ofText b
      let known := front.length + back.length
      if known < 8 then some (front ++ List.replicate (8 - known) 0 ++ back) else none

/-- Characters that no host contains. -/
def isForbidden (c : Char) : Bool :=
  [Char.ofNat 0, '\t', '\n', '\r', ' ', '#', '/', ':', '<', '>', '?', '@', '[', '\\', ']', '^',
    '|'].contains c

/-- Reads the host of a scheme that names hosts. -/
def readDomain? (s : List Char) : Option Host := do
  let decoded ← String.fromUTF8? ⟨(unescape s).toArray⟩
  let name ← DomainName.ascii? decoded.toList
  if name.isEmpty ∨ name.any (fun c => isForbidden c || c == '%' || isControl c) then none
  else if endsInNumber name then (readV4? name).map v4
  else some (.name (String.ofList name))

/-- Reads a host; `special` tells whether the scheme names hosts. -/
def read? (special : Bool) (s : List Char) : Option Host :=
  match s with
  | '[' :: r =>
    if r.getLast? = some ']' then (readV6? r.dropLast).map v6 else none
  | s =>
    if special then readDomain? s
    else if s.any isForbidden then none
    else some (.name (String.ofList (escape isControl s)))

/-- Where the first longest run of two or more zeros starts, and its length. -/
def zeroRun (pieces : List Nat) : Option (Nat × Nat) :=
  let runs := (List.range pieces.length).map
    (fun i => (i, ((pieces.drop i).takeWhile (· == 0)).length))
  runs.foldl (fun best r =>
    if r.2 < 2 then best
    else match best with
      | none => some r
      | some b => if b.2 < r.2 then some r else best) none

def text : Host → List Char
  | .name s => s.toList
  | .v4 n =>
    joinWith '.' [digits (n / 16777216), digits (n / 65536 % 256), digits (n / 256 % 256),
      digits (n % 256)]
  | .v6 pieces =>
    let write (ps : List Nat) : List Char := joinWith ':' (ps.map hexDigits)
    let body :=
      match zeroRun pieces with
      | none => write pieces
      | some (i, n) => write (pieces.take i) ++ ':' :: ':' :: write (pieces.drop (i + n))
    '[' :: body ++ [']']

end Host

end RemoteTable
