import RemoteTable.Calendar.Time

/-!
Points in time: a date and a time of day in no particular place, and the same in universal time.
-/

namespace RemoteTable

/-- A date and a time of day, without a place. -/
structure LocalTimestamp where
  date : Date
  time : Time
  deriving DecidableEq

/-- A point in time, as the date and time of day in universal time. -/
structure Timestamp where
  utc : LocalTimestamp
  deriving DecidableEq

namespace LocalTimestamp

open Calendar Text

def text (t : LocalTimestamp) : List Char := t.date.text ++ 'T' :: t.time.text

/-- A date, the letter T, a time with seconds, and nothing after it but blanks. -/
def read? (s : List Char) : Option LocalTimestamp := do
  let (date, r) ← Date.readPart? s
  let r ← readMark? 'T' r
  let (hour, minute, r) ← Time.readMinutes? r
  let (second, nanos, r) ← Time.readSeconds? r
  let time ← Time.ofFields? hour minute second nanos
  if dropBlanks r = [] then some ⟨date, time⟩ else none

/-- The timestamp moved by less than two days; seconds stay as they are. -/
def shift? (t : LocalTimestamp) (minutes : Int) : Option LocalTimestamp := do
  let total := ((t.time.hour * 60 + t.time.minute : Nat) : Int) + minutes
  let days := total / 1440
  let date ←
    if days = 0 then some t.date
    else if days = 1 then t.date.next?
    else if days = -1 then t.date.previous?
    else none
  some ⟨date, t.time.atMinute (total % 1440).toNat (by omega)⟩

end LocalTimestamp

namespace Timestamp

open Calendar Text

def text (t : Timestamp) : List Char := t.utc.text ++ ['Z']

/-- The distance from universal time in minutes. -/
def readZone? (s : List Char) : Option Int :=
  let offset (sign : Int) (r : List Char) : Option Int := do
    let (hours, r) ← readExactly? 2 r
    let r ← readChar? ':' r
    let (minutes, r) ← readExactly? 2 r
    if hours < 24 ∧ minutes < 60 ∧ r = [] then some (sign * (hours * 60 + minutes : Nat)) else none
  match s with
  | ['Z'] => some 0
  | ['z'] => some 0
  | '+' :: r => offset 1 r
  | '-' :: r => offset (-1) r
  | '−' :: r => offset (-1) r
  | _ => none

/-- The interchange form: fields of fixed width and a distance from universal time. -/
def readZoned? (s : List Char) : Option Timestamp := do
  let (year, r) ← readExactly? 4 s
  let r ← readChar? '-' r
  let (month, r) ← readExactly? 2 r
  let r ← readChar? '-' r
  let (day, r) ← readExactly? 2 r
  let (mark, r) ← match r with
    | c :: r => some (c, r)
    | [] => none
  let (hour, r) ← readExactly? 2 r
  let r ← readChar? ':' r
  let (minute, r) ← readExactly? 2 r
  let r ← readChar? ':' r
  let (second, r) ← readExactly? 2 r
  let (nanos, r) ← Time.readFraction? r
  let offset ← readZone? r
  let date ← Date.make? year month day
  let time ← Time.ofFields? hour minute second nanos
  if mark = 'T' ∨ mark = 't' ∨ mark = ' ' then
    (LocalTimestamp.shift? ⟨date, time⟩ (-offset)).map Timestamp.mk
  else none

/-- Reads the interchange form; a timestamp without a distance is taken to be universal time. -/
def read? (s : List Char) : Option Timestamp :=
  match readZoned? s with
  | some t => some t
  | none => (LocalTimestamp.read? s).map Timestamp.mk

end Timestamp

end RemoteTable
