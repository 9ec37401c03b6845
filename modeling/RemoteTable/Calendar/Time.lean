import RemoteTable.Calendar.Date

/-!
Times of day to the nanosecond. A second that carries a thousand million nanoseconds or more has a
leap second after it, which a text shows as the second that follows. A time put together from its
fields has leap seconds only at the end of a minute; one whose nanoseconds have been replaced, or
that has been moved by part of a minute, may have them after any second.
-/

namespace RemoteTable

/-- A time of day. -/
structure Time where
  hour : Nat
  minute : Nat
  second : Nat
  nanos : Nat
  valid : hour < 24 ∧ minute < 60 ∧ second < 60 ∧ nanos < 2000000000
  deriving DecidableEq

namespace Time

open Calendar Text

/-- The time with these fields, a leap second being the last of its minute. -/
def make? (hour minute second nanos : Nat) : Option Time :=
  if h : (hour < 24 ∧ minute < 60 ∧ second < 60 ∧ nanos < 2000000000) ∧
      (1000000000 ≤ nanos → second = 59) then
    some ⟨hour, minute, second, nanos, h.1⟩
  else none

/-- The time at another minute of the day, with its seconds as they are. -/
def atMinute (t : Time) (minute : Nat) (h : minute < 1440) : Time where
  hour := minute / 60
  minute := minute % 60
  second := t.second
  nanos := t.nanos
  valid := ⟨by omega, by omega, t.valid.2.2⟩

/-- The time with a second that may be the sixtieth. -/
def ofFields? (hour minute second nanos : Nat) : Option Time :=
  if second = 60 then make? hour minute 59 (nanos + 1000000000) else make? hour minute second nanos

/-- Three, six or nine places, the fewest that are exact, or none. -/
def fractionText (nanos : Nat) : List Char :=
  if nanos = 0 then []
  else if nanos % 1000000 = 0 then '.' :: padded 3 (nanos / 1000000)
  else if nanos % 1000 = 0 then '.' :: padded 6 (nanos / 1000)
  else '.' :: padded 9 nanos

def text (t : Time) : List Char :=
  padded 2 t.hour ++ ':' :: padded 2 t.minute ++
    ':' :: padded 2 (t.second + t.nanos / 1000000000) ++ fractionText (t.nanos % 1000000000)

/-- Digits after a point as nanoseconds, places after the ninth being dropped. -/
def readFraction? (s : List Char) : Option (Nat × List Char) :=
  match s with
  | '.' :: r =>
    let (ds, r) := spanDigits r
    let kept := ds.take 9
    if ds = [] then none else some (numeral kept * Nat.pow 10 (9 - kept.length), r)
  | r => some (0, r)

/-- Seconds with a colon before them: the second, the nanoseconds and what follows. -/
def readSeconds? (s : List Char) : Option (Nat × Nat × List Char) := do
  let r ← readMark? ':' s
  let (second, r) ← readField? 2 r
  let (nanos, r) ← readFraction? r
  if second ≤ 60 then some (second, nanos, r) else none

/-- Hour and minute at the start of a text. -/
def readMinutes? (s : List Char) : Option (Nat × Nat × List Char) := do
  let (hour, r) ← readField? 2 s
  let r ← readMark? ':' r
  let (minute, r) ← readField? 2 r
  if hour < 24 ∧ minute < 60 then some (hour, minute, r) else none

/-- A time with or without seconds, and nothing after it but blanks. -/
def read? (s : List Char) : Option Time := do
  let (hour, minute, r) ← readMinutes? s
  let (second, nanos, r) := (readSeconds? r).getD (0, 0, r)
  if dropBlanks r = [] then ofFields? hour minute second nanos else none

end Time

end RemoteTable
