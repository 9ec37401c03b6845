import RemoteTable.Text.Blank
import RemoteTable.Text.Digits

/-!
Dates of the proleptic Gregorian calendar, and the pieces that readers of dates and times share.
-/

namespace RemoteTable

namespace Calendar

def isLeapYear (year : Int) : Bool :=
  year % 4 == 0 && (year % 100 != 0 || year % 400 == 0)

def daysInMonth (year : Int) (month : Nat) : Nat :=
  if month = 2 then (if isLeapYear year then 29 else 28)
  else if month = 4 ∨ month = 6 ∨ month = 9 ∨ month = 11 then 30
  else 31

/-- The years that a date can have. -/
def yearMin : Int := -262143

def yearMax : Int := 262142

end Calendar

/-- A day of the calendar. -/
structure Date where
  year : Int
  month : Nat
  day : Nat
  valid : Calendar.yearMin ≤ year ∧ year ≤ Calendar.yearMax ∧ 1 ≤ month ∧ month ≤ 12 ∧
    1 ≤ day ∧ day ≤ Calendar.daysInMonth year month
  deriving DecidableEq

namespace Calendar

open Text

/-- After any blanks, a natural of at most `most` digits. -/
def readField? (most : Nat) (s : List Char) : Option (Nat × List Char) :=
  let (ds, r) := takeDigits most (dropBlanks s)
  if ds = [] then none else some (numeral ds, r)

/-- After any blanks, a given character. -/
def readMark? (mark : Char) (s : List Char) : Option (List Char) :=
  match dropBlanks s with
  | c :: r => if c = mark then some r else none
  | [] => none

/-- A natural of exactly `n` digits. -/
def readExactly? (n : Nat) (s : List Char) : Option (Nat × List Char) :=
  let (ds, r) := takeDigits n s
  if ds.length = n then some (numeral ds, r) else none

/-- A given character, at once. -/
def readChar? (mark : Char) : List Char → Option (List Char)
  | c :: r => if c = mark then some r else none
  | [] => none

/-- After any blanks, up to four digits, or any number of them after a sign. -/
def readYear? (s : List Char) : Option (Int × List Char) :=
  let signed (sign : Int) (r : List Char) : Option (Int × List Char) :=
    let (ds, r) := spanDigits r
    if ds = [] then none else some (sign * (numeral ds : Int), r)
  match dropBlanks s with
  | '+' :: r => signed 1 r
  | '-' :: r => signed (-1) r
  | r => (readField? 4 r).map (fun (n, r) => ((n : Int), r))

end Calendar

namespace Date

open Calendar Text

def make? (year : Int) (month day : Nat) : Option Date :=
  if h : yearMin ≤ year ∧ year ≤ yearMax ∧ 1 ≤ month ∧ month ≤ 12 ∧
      1 ≤ day ∧ day ≤ daysInMonth year month then
    some ⟨year, month, day, h⟩
  else none

/-- The day before. -/
def previous? (d : Date) : Option Date :=
  if 1 < d.day then make? d.year d.month (d.day - 1)
  else if 1 < d.month then make? d.year (d.month - 1) (daysInMonth d.year (d.month - 1))
  else make? (d.year - 1) 12 31

/-- The day after. -/
def next? (d : Date) : Option Date :=
  if d.day < daysInMonth d.year d.month then make? d.year d.month (d.day + 1)
  else if d.month < 12 then make? d.year (d.month + 1) 1
  else make? (d.year + 1) 1 1

/-- At least four digits, and a sign unless there are exactly four of a year that has come. -/
def yearText (year : Int) : List Char :=
  if year < 0 then '-' :: padded 4 year.natAbs
  else if 9999 < year then '+' :: digits year.natAbs
  else padded 4 year.natAbs

def text (d : Date) : List Char :=
  yearText d.year ++ '-' :: padded 2 d.month ++ '-' :: padded 2 d.day

/-- A date at the start of a text; blanks may stand before its numbers and hyphens. -/
def readPart? (s : List Char) : Option (Date × List Char) := do
  let (year, r) ← readYear? s
  let r ← readMark? '-' r
  let (month, r) ← readField? 2 r
  let r ← readMark? '-' r
  let (day, r) ← readField? 2 r
  let d ← make? year month day
  some (d, r)

/-- A date and nothing after it but blanks. -/
def read? (s : List Char) : Option Date := do
  let (d, r) ← readPart? s
  if dropBlanks r = [] then some d else none

end Date

end RemoteTable
