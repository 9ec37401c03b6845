/-!
The encoding of texts beyond ASCII in letters, digits and hyphens, and its inverse: the characters
of ASCII first, then the insertion of all others, in ascending order, as a sequence of differences.
-/

namespace RemoteTable.Url.Punycode

/-- The character of a digit of base 36. -/
def digitChar (d : Nat) : Char := if d < 26 then Char.ofNat (97 + d) else Char.ofNat (22 + d)

/-- The value below which a digit at distance `k` ends a number. -/
def threshold (k bias : Nat) : Nat :=
  if k ≤ bias then 1 else if bias + 26 ≤ k then 26 else k - bias

/-- Reduces a difference for the next bias; it falls below 456 in `fuel` steps. -/
def reduce : Nat → Nat → Nat → Nat × Nat
  | 0, delta, k => (delta, k)
  | fuel + 1, delta, k => if 455 < delta then reduce fuel (delta / 35) (k + 36) else (delta, k)

/-- The bias after a difference, of which `written` characters have been placed. -/
def adapt (delta written : Nat) (first : Bool) : Nat :=
  let delta := if first then delta / 700 else delta / 2
  let delta := delta + delta / written
  let (delta, k) := reduce delta delta 0
  k + 36 * delta / (delta + 38)

/-- A difference as digits; every digit but the last divides it by ten or more. -/
def difference : Nat → Nat → Nat → Nat → List Char
  | 0, _, _, _ => []
  | fuel + 1, bias, k, q =>
    let t := threshold k bias
    if q < t then [digitChar q]
    else digitChar (t + (q - t) % (36 - t)) :: difference fuel bias (k + 36) ((q - t) / (36 - t))

structure State where
  delta : Nat
  bias : Nat
  written : Nat
  first : Bool
  output : List Char

/-- Passes over one character of the text while the insertions of `n` are written. -/
def place (n : Nat) (s : State) (c : Nat) : State :=
  if c < n then { s with delta := s.delta + 1 }
  else if c = n then
    ⟨0, adapt s.delta (s.written + 1) s.first, s.written + 1, false,
      s.output ++ difference (s.delta + 1) s.bias 36 s.delta⟩
  else s

/-- Writes the insertions of each of the code points, which ascend from `n`. -/
def insertAll (text : List Nat) (n : Nat) (s : State) : List Nat → State
  | [] => s
  | m :: r =>
    let s := { s with delta := s.delta + (m - n) * (s.written + 1) }
    let s := text.foldl (place m) s
    insertAll text (m + 1) { s with delta := s.delta + 1 } r

def encode (s : List Char) : List Char :=
  let text := s.map Char.toNat
  let basic := s.filter (fun c => decide (c.toNat < 128))
  let others := (text.filter (fun n => decide (128 ≤ n))).mergeSort (fun a b => decide (a ≤ b))
  let start := basic ++ (if basic = [] then [] else ['-'])
  (insertAll text 128 ⟨0, 72, basic.length, true, start⟩ others.eraseDups).output

/-- The value of a digit of base 36, in either case. -/
def digit? (c : Char) : Option Nat :=
  let n := c.toNat
  if 97 ≤ n ∧ n ≤ 122 then some (n - 97)
  else if 65 ≤ n ∧ n ≤ 90 then some (n - 65)
  else if 48 ≤ n ∧ n ≤ 57 then some (n - 22)
  else none

/-- A text in the course of decoding: the characters it has so far, the next place and code point,
and the difference that is being read, with the weight and the distance of its next digit. -/
structure Insertion where
  text : List Char
  place : Nat
  next : Nat
  bias : Nat
  difference : Nat
  weight : Nat
  distance : Nat

namespace Insertion

/-- No difference has been begun. -/
def isSettled (s : Insertion) : Bool := s.distance == 36

/-- Inserts the character that a complete difference tells of. -/
def settle? (s : Insertion) : Option Insertion :=
  let size := s.text.length + 1
  let advance := s.place + s.difference
  let next := s.next + advance / size
  let place := advance % size
  if next.isValidChar then
    some ⟨s.text.take place ++ Char.ofNat next :: s.text.drop place, place + 1, next,
      adapt s.difference size (s.place == 0), 0, 1, 36⟩
  else none

/-- Reads one digit. Differences and weights have 32 bits. -/
def read? (s : Insertion) (d : Nat) : Option Insertion :=
  let t := threshold s.distance s.bias
  let difference := s.difference + d * s.weight
  let weight := s.weight * (36 - t)
  if UInt32.size ≤ s.place + difference then none
  else if d < t then { s with difference := difference }.settle?
  else if UInt32.size ≤ weight then none
  else some { s with difference := difference, weight := weight, distance := s.distance + 36 }

end Insertion

/-- Decodes a text of ASCII; the last hyphen ends the characters that stand for themselves. -/
def decode? (s : List Char) : Option (List Char) := do
  let digits := (s.reverse.takeWhile (· != '-')).reverse
  let basic := (s.take (s.length - digits.length)).dropLast
  if digits.length + 1 = s.length then none
  else
    let values ← digits.mapM digit?
    let final ← values.foldlM Insertion.read? ⟨basic, 0, 128, 72, 0, 1, 36⟩
    if final.isSettled then some final.text else none

end RemoteTable.Url.Punycode
