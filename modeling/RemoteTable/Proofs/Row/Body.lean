import Mathlib
import RemoteTable.Proofs.Json.Reading
import RemoteTable.Row.Basic

/-!
Bodies written row by row: the objects that such a body is split into hold, under each column, the
document of the last cell of that column.
-/

namespace RemoteTable.Row

open Json

/-- What stands under a column of a row: a text, and the document that it is read as. -/
structure Cell where
  text : List Char
  document : Json
  reads : ∀ depth, maxDepth ≤ depth + 2 → Reads depth text document

/-- The cells of a row with their columns. -/
abbrev Cells := List (String × Cell)

namespace Cells

/-- The text of a row. -/
def text (cells : Cells) : List Char :=
  '\x7b' :: listed '\x7d' (cells.map fun c => quoted c.1 ++ ':' :: c.2.text)

/-- The members of the object that a row is read as. -/
def members (cells : Cells) : JsonMembers :=
  (Dict.ofList (cells.map fun c => (c.1, c.2.document))).toList

theorem reads_text (cells : Cells) {depth : Nat} (h : maxDepth ≤ depth + 2) :
    Reads (depth + 1) cells.text (.object cells.members) := by
  refine Reads.object ?_
  induction cells with
  | nil => exact .nil
  | cons c cells ih => exact .cons ⟨c.2.text, rfl, c.2.reads depth h⟩ ih

theorem lookup_map (cells : Cells) (name : String) :
    (cells.map fun c => (c.1, c.2.document)).lookup name =
      (cells.lookup name).map Cell.document := by
  induction cells with
  | nil => rfl
  | cons c cells ih =>
    rw [List.map_cons, Dict.lookup_cons_eq_ite, Dict.lookup_cons_eq_ite, ih]
    split
    · rfl
    · rfl

/-- A column holds the last of its cells. -/
theorem lookup_members {cells : Cells} {name : String} {c : Cell}
    (h : cells.reverse.lookup name = some c) : cells.members.lookup name = some c.document := by
  have hfind := Dict.find?_ofList (cells.map fun c => (c.1, c.2.document)) name
  rw [← List.map_reverse, lookup_map, h] at hfind
  exact hfind

end Cells

/-- The texts of a body: an array of rows, or one row by itself. -/
inductive IsBody : List Char → List Cells → Prop
  | rows (rows : List Cells) : IsBody ('[' :: listed ']' (rows.map Cells.text)) rows
  | row (cells : Cells) : IsBody cells.text [cells]

theorem objectsFrom_members (i : Nat) (rows : List Cells) :
    objectsFrom i (rows.map fun cells => .object cells.members) = .ok (rows.map Cells.members) := by
  induction rows generalizing i with
  | nil => rfl
  | cons cells rows ih =>
    rw [List.map_cons, objectsFrom, ih]
    rfl

/-- A body is split into the objects of its rows. -/
theorem objectsOf_body {t : List Char} {rows : List Cells} (h : IsBody t rows) :
    objectsOf (String.ofList t).toUTF8 = .ok (rows.map Cells.members) := by
  unfold objectsOf
  cases h with
  | rows =>
    have hread : Reads maxDepth ('[' :: listed ']' (rows.map Cells.text))
        (.array (rows.map fun cells => .object cells.members)) := by
      refine Reads.array (List.forall₂_map_left_iff.2 (List.forall₂_map_right_iff.2 ?_))
      exact List.forall₂_same.2 fun cells _ => cells.reads_text (by decide)
    rw [hread.ofBytes?_eq]
    exact objectsFrom_members 0 rows
  | row cells =>
    have hread : Reads maxDepth cells.text (.object cells.members) := cells.reads_text (by decide)
    rw [hread.ofBytes?_eq]
    rfl

end RemoteTable.Row
