import RemoteTable.Text.Hex

/-!
Universally unique identifiers: thirty-two hexadecimal digits, written in five groups.
-/

namespace RemoteTable

/-- An identifier, as its hexadecimal digits. -/
structure Uuid where
  digits : List (Fin 16)
  length_eq : digits.length = 32
  deriving DecidableEq

namespace Uuid

open Text

/-- The identifier of thirty-two hexadecimal digits in a row. -/
def ofDigits? (s : List Char) : Option Uuid := do
  let ds ← s.mapM hexDigit?
  if h : ds.length = 32 then some ⟨ds, h⟩ else none

/-- Joins groups of 8, 4, 4, 4 and 12 characters that hyphens separate. -/
def joinGroups? (s : List Char) : Option (List Char) :=
  let marks := [s[8]?, s[13]?, s[18]?, s[23]?]
  if s.length = 36 ∧ marks.all (· == some '-') then
    some (s.take 8 ++ (s.drop 9).take 4 ++ (s.drop 14).take 4 ++ (s.drop 19).take 4 ++ s.drop 24)
  else none

/-- The text inside braces. -/
def unbraced? (s : List Char) : Option (List Char) :=
  if s.head? = some '\x7b' ∧ s.getLast? = some '\x7d' then some (s.drop 1).dropLast else none

/-- The text after the name of the identifiers' own name space. -/
def unqualified? (s : List Char) : Option (List Char) :=
  if s.take 9 = "urn:uuid:".toList then some (s.drop 9) else none

/-- Reads the plain digits, the grouped form, and the grouped form in braces or fully qualified. -/
def read? (s : List Char) : Option Uuid :=
  if s.length = 32 then ofDigits? s
  else if s.length = 36 then joinGroups? s >>= ofDigits?
  else if s.length = 38 then unbraced? s >>= joinGroups? >>= ofDigits?
  else if s.length = 45 then unqualified? s >>= joinGroups? >>= ofDigits?
  else none

/-- The grouped form in lower case. -/
def text (u : Uuid) : List Char :=
  let s := u.digits.map hexChar
  s.take 8 ++ '-' :: (s.drop 8).take 4 ++ '-' :: (s.drop 12).take 4 ++ '-' :: (s.drop 16).take 4 ++
    '-' :: s.drop 20

end Uuid

end RemoteTable
