import RemoteTable.Text.CharSet
import RemoteTable.Text.CompositionTable

/-!
The composed form of a text: marks on one character stand in the order of their classes, and a
character with a mark is written as one character where there is one. Two texts that differ only
in how their marks are written have the same composed form.
-/

namespace RemoteTable.Text

/-- The class of a combining mark; zero for a character that marks are put on. -/
def combiningClass (c : Char) : Nat :=
  match markClasses.find? (fun r => within r.2 c.toNat) with
  | some r => r.1
  | none => 0

/-- The characters of a text two by two. -/
def pairsOf : List Char → List (Char × Char)
  | a :: b :: r => (a, b) :: pairsOf r
  | _ => []

/-- The first syllable of the block that is made of parts by a rule. -/
def syllableStart : Nat := 0xac00

/-- The number of syllables of the block. -/
def syllableCount : Nat := 11172

/-- The two halves of a syllable: its first consonant and its vowel, or the syllable without its
last consonant and that consonant. -/
def halves (i : Nat) : Char × Char :=
  if i % 28 = 0 then (Char.ofNat (0x1100 + i / 588), Char.ofNat (0x1161 + i % 588 / 28))
  else (Char.ofNat (syllableStart + (i - i % 28)), Char.ofNat (0x11a7 + i % 28))

/-- The character and the last of its marks that one character stands for. -/
def split? (c : Char) : Option (Char × Char) :=
  let n := c.toNat
  if n < 0xc0 then none
  else if syllableStart ≤ n ∧ n < syllableStart + syllableCount then
    some (halves (n - syllableStart))
  else markPairs.findSome? fun (mark, text) =>
    ((pairsOf text.toList).find? (fun p => p.2 == c)).map (fun p => (p.1, Char.ofNat mark))

/-- The syllable that two parts make. -/
def syllable? (a b : Nat) : Option Char :=
  if 0x1100 ≤ a ∧ a < 0x1113 ∧ 0x1161 ≤ b ∧ b < 0x1176 then
    some (Char.ofNat (syllableStart + (a - 0x1100) * 588 + (b - 0x1161) * 28))
  else if syllableStart ≤ a ∧ a < syllableStart + syllableCount ∧ (a - syllableStart) % 28 = 0 ∧
      0x11a7 < b ∧ b < 0x11c3 then
    some (Char.ofNat (a + (b - 0x11a7)))
  else none

/-- The one character that stands for a character with a mark. -/
def join? (a b : Char) : Option Char :=
  match syllable? a.toNat b.toNat with
  | some s => some s
  | none => markPairs.findSome? fun (mark, text) =>
    if mark = b.toNat then ((pairsOf text.toList).find? (fun p => p.1 == a)).map (·.2) else none

/-- A character taken apart, `most` marks at the most. -/
def takenApart (most : Nat) (c : Char) : List Char :=
  match most with
  | 0 => [c]
  | k + 1 =>
    match split? c with
    | none => [c]
    | some (a, b) => takenApart k a ++ [b]

/-- Puts a character after a text, given from its end, but in front of the marks of higher
classes that the text ends in. -/
def placeMark (c : Char) : List Char → List Char
  | [] => [c]
  | d :: r =>
    if 0 < combiningClass c ∧ combiningClass c < combiningClass d then d :: placeMark c r
    else c :: d :: r

/-- Every character taken apart and the marks in order; no character carries more than three. -/
def decomposed (s : List Char) : List Char :=
  ((s.flatMap (takenApart 3)).foldl (fun out c => placeMark c out) []).reverse

/-- A text in the course of composition. The parts before the character that takes marks, and the
marks after it that it has not taken, are given from their ends. -/
structure Composing where
  before : List Char
  base : Option Char
  marks : List Char

namespace Composing

/-- A mark of the same or a higher class in between keeps the base from taking a mark. -/
def blocks (s : Composing) (c : Char) : Bool :=
  match s.marks with
  | [] => false
  | m :: _ => decide (combiningClass c ≤ combiningClass m)

/-- What has been read, from its end. -/
def written (s : Composing) : List Char := s.marks ++ s.base.toList ++ s.before

def push (s : Composing) (c : Char) : Composing :=
  let joined := s.base.bind (fun b => if s.blocks c then none else join? b c)
  match joined with
  | some j => { s with base := some j }
  | none =>
    if combiningClass c = 0 then ⟨s.written, some c, []⟩ else { s with marks := c :: s.marks }

end Composing

def composed (s : List Char) : List Char :=
  ((decomposed s).foldl Composing.push ⟨[], none, []⟩).written.reverse

end RemoteTable.Text
