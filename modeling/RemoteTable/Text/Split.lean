/-!
Texts that a character divides into parts.
-/

namespace RemoteTable.Text

/-- Splits a text at every occurrence of a character. -/
def splitAtChar (mark : Char) : List Char → List (List Char)
  | [] => [[]]
  | c :: r =>
    match splitAtChar mark r with
    | [] => [[]]
    | s :: rest => if c = mark then [] :: s :: rest else (c :: s) :: rest

/-- Joins texts with a character between them. -/
def joinWith (mark : Char) : List (List Char) → List Char
  | [] => []
  | [s] => s
  | s :: r => s ++ mark :: joinWith mark r

end RemoteTable.Text
