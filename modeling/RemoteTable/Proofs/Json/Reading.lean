import Mathlib
import RemoteTable.Json.Printer
import RemoteTable.Json.Reader

/-!
Texts that are read as a document wherever they stand. Arrays and objects of such texts are such
texts themselves.
-/

namespace RemoteTable.Json

open Text

/-- What follows a document inside of another one, or at the end of a text. -/
def Ends (r : List Char) : Prop := ∀ c ∈ r.head?, c = ',' ∨ c = ']' ∨ c = '\x7d'

/-- A text is read as a document that has room for so many levels, whatever follows it. -/
structure Reads (depth : Nat) (t : List Char) (j : Json) : Prop where
  starts : ∃ c s, t = c :: s ∧ isSpace c = false ∧ c ≠ ']'
  readValue?_eq : ∀ fuel r, 2 * t.length + 2 ≤ fuel → Ends r →
    readValue? fuel depth (t ++ r) = some (j, r)

/-- Texts one after the other with commas between them, up to a closing mark. -/
def listed (close : Char) : List (List Char) → List Char
  | [] => [close]
  | [t] => t ++ [close]
  | t :: ts => t ++ ',' :: listed close ts

@[simp] theorem skipSpace_nil : skipSpace [] = [] := rfl

theorem skipSpace_cons {c : Char} (h : isSpace c = false) (r : List Char) :
    skipSpace (c :: r) = c :: r := by
  simp [skipSpace, h]

/-- An escaped control character is read by its number. -/
theorem hexUnit?_nibbles {c : Char} (hc : c.toNat < 32) :
    hexUnit? '0' '0' (hexChar (nibbles (UInt8.ofNat c.toNat)).1)
      (hexChar (nibbles (UInt8.ofNat c.toNat)).2) = some c.toNat := by
  have hzero : hexDigit? '0' = some 0 := by decide
  have hbyte : (UInt8.ofNat c.toNat).toNat = c.toNat := by
    rw [UInt8.toNat_ofNat', Nat.mod_eq_of_lt (by omega)]
  simp only [hexUnit?, hzero, hexDigit?_hexChar, Option.bind_eq_bind, Option.bind_some, nibbles,
    hbyte, Option.some.injEq]
  change ((0 * 16 + 0) * 16 + c.toNat / 16) * 16 + c.toNat % 16 = c.toNat
  omega

/-- A character inside a quoted text is read back. -/
theorem readQuoted?_escapeChar (c : Char) (r : List Char) :
    readQuoted? (escapeChar c ++ r) = (readQuoted? r).map fun (cs, rest) => (c :: cs, rest) := by
  rw [Option.map_eq_bind]
  by_cases hplain : c = '"' ∨ c = '\\' ∨ c = '\n' ∨ c = '\r' ∨ c = '\t' ∨ c = Char.ofNat 8 ∨
      c = Char.ofNat 12
  · obtain rfl | rfl | rfl | rfl | rfl | rfl | rfl := hplain
    all_goals simp [escapeChar, readQuoted?, shortEscape?]
  · simp only [not_or] at hplain
    obtain ⟨hquote, hslash, hline, hreturn, htab, hback, hform⟩ := hplain
    unfold escapeChar
    simp only [if_neg hquote, if_neg hslash, if_neg hline, if_neg hreturn, if_neg htab,
      if_neg hback, if_neg hform]
    split
    · next hcontrol =>
      have hhigh : isHighSurrogate c.toNat = false := by
        rw [isHighSurrogate, decide_eq_false_iff_not]
        omega
      have hlow : isLowSurrogate c.toNat = false := by
        rw [isLowSurrogate, decide_eq_false_iff_not]
        omega
      simp [readQuoted?, hexUnit?_nibbles hcontrol, hhigh, hlow]
    · next hprinted =>
      simp [readQuoted?, hslash, hprinted]

/-- A quoted text is read back, and what follows its closing quote is left. -/
theorem readQuoted?_flatMap (cs r : List Char) :
    readQuoted? (cs.flatMap escapeChar ++ '"' :: r) = some (cs, r) := by
  induction cs with
  | nil => simp [readQuoted?]
  | cons c cs ih =>
    rw [List.flatMap_cons, List.append_assoc, readQuoted?_escapeChar, ih]
    rfl

theorem ends_comma (r : List Char) : Ends (',' :: r) := by simp [Ends]

theorem ends_bracket (r : List Char) : Ends (']' :: r) := by simp [Ends]

theorem ends_brace (r : List Char) : Ends ('\x7d' :: r) := by simp [Ends]

theorem length_listed_singleton (close : Char) (t : List Char) :
    (listed close [t]).length = t.length + 1 := by
  simp [listed]

theorem length_listed_cons (close : Char) (t u : List Char) (ts : List (List Char)) :
    (listed close (t :: u :: ts)).length = t.length + (listed close (u :: ts)).length + 1 := by
  rw [listed, List.length_append, List.length_cons]
  · rfl
  · simp

/-- Items that are read one by one are read as a list. -/
theorem readItems?_listed {depth : Nat} {ts : List (List Char)} {js : List Json}
    (h : List.Forall₂ (Reads depth) ts js) (hne : ts ≠ []) {fuel : Nat}
    (hfuel : 2 * (listed ']' ts).length < fuel) (r : List Char) :
    readItems? fuel depth (listed ']' ts ++ r) = some (js, r) := by
  induction h generalizing fuel with
  | nil => exact absurd rfl hne
  | @cons t j ts js hread hrest ih =>
    obtain ⟨fuel, rfl⟩ := Nat.exists_eq_succ_of_ne_zero (Nat.ne_zero_of_lt hfuel)
    cases hrest with
    | nil =>
      rw [length_listed_singleton] at hfuel
      rw [listed, List.append_assoc, List.singleton_append, readItems?,
        hread.readValue?_eq fuel _ (by omega) (ends_bracket r)]
      rfl
    | @cons u k us ks hread' hrest' =>
      rw [length_listed_cons] at hfuel
      have htail := ih (by simp) (by omega : 2 * (listed ']' (u :: us)).length < fuel)
      rw [listed, List.append_assoc, List.cons_append, readItems?,
        hread.readValue?_eq fuel _ (by omega) (ends_comma _), Option.bind_eq_bind, Option.bind_some]
      · simp only [skipSpace_cons (c := ',') rfl, htail]
        rfl
      · simp

/-- A member with its name in front is read as that member. -/
def ReadsMember (depth : Nat) (t : List Char) (m : String × Json) : Prop :=
  ∃ u, t = quoted m.1 ++ ':' :: u ∧ Reads depth u m.2

/-- Members that are read one by one are read as a list. -/
theorem readMembers?_listed {depth : Nat} {ts : List (List Char)} {ms : List (String × Json)}
    (h : List.Forall₂ (ReadsMember depth) ts ms) (hne : ts ≠ []) {fuel : Nat}
    (hfuel : 2 * (listed '\x7d' ts).length < fuel) (r : List Char) :
    readMembers? fuel depth (listed '\x7d' ts ++ r) = some (ms, r) := by
  induction h generalizing fuel with
  | nil => exact absurd rfl hne
  | @cons t m ts ms hread hrest ih =>
    obtain ⟨fuel, rfl⟩ := Nat.exists_eq_succ_of_ne_zero (Nat.ne_zero_of_lt hfuel)
    obtain ⟨name, j⟩ := m
    obtain ⟨u, rfl, hvalue⟩ := hread
    dsimp only at *
    have hlength : u.length + 3 ≤ (quoted name ++ ':' :: u).length := by
      simp [quoted]
    have hname (r : List Char) : skipSpace (quoted name ++ ':' :: u ++ r) =
        '"' :: (name.toList.flatMap escapeChar ++ '"' :: ':' :: (u ++ r)) := by
      simp [quoted, skipSpace_cons (c := '"') rfl]
    cases hrest with
    | nil =>
      rw [length_listed_singleton] at hfuel
      rw [listed, List.append_assoc, List.singleton_append, readMembers?, hname]
      simp only [readQuoted?_flatMap, Option.bind_eq_bind, Option.bind_some,
        skipSpace_cons (c := ':') rfl, hvalue.readValue?_eq fuel _ (by omega) (ends_brace r)]
      simp [skipSpace_cons (c := '\x7d') rfl]
    | @cons v k us ks hread' hrest' =>
      rw [length_listed_cons] at hfuel
      have htail := ih (by simp) (by omega : 2 * (listed '\x7d' (v :: us)).length < fuel)
      rw [listed, List.append_assoc, List.cons_append, readMembers?, hname]
      · simp only [readQuoted?_flatMap, Option.bind_eq_bind, Option.bind_some,
          skipSpace_cons (c := ':') rfl, hvalue.readValue?_eq fuel _ (by omega) (ends_comma _)]
        simp [skipSpace_cons (c := ',') rfl, htail]
      · simp

theorem exists_listed_cons (close c : Char) (s : List Char) (ts : List (List Char)) :
    ∃ u, listed close ((c :: s) :: ts) = c :: u := by
  cases ts with
  | nil => exact ⟨_, rfl⟩
  | cons t ts => exact ⟨_, rfl⟩

/-- An array of texts is read as an array. -/
theorem Reads.array {depth : Nat} {ts : List (List Char)} {js : List Json}
    (h : List.Forall₂ (Reads depth) ts js) : Reads (depth + 1) ('[' :: listed ']' ts) (.array js) where
  starts := ⟨_, _, rfl, rfl, by decide⟩
  readValue?_eq fuel r hfuel _ := by
    obtain ⟨fuel, rfl⟩ := Nat.exists_eq_succ_of_ne_zero (by omega : fuel ≠ 0)
    rw [List.length_cons] at hfuel
    rw [List.cons_append, readValue?]
    simp only [skipSpace_cons (c := '[') rfl]
    rw [if_neg (by omega)]
    cases h with
    | nil => rfl
    | @cons t j ts js hread hrest =>
      have hitems := readItems?_listed (.cons hread hrest) (by simp)
        (by omega : 2 * (listed ']' (t :: ts)).length < fuel) r
      obtain ⟨c, s, rfl, hspace, hne⟩ := hread.starts
      obtain ⟨u, hu⟩ := exists_listed_cons ']' c s ts
      rw [hu, List.cons_append] at hitems ⊢
      rw [skipSpace_cons hspace]
      simp [hne, hitems]

/-- An object of texts with names is read as an object. -/
theorem Reads.object {depth : Nat} {ts : List (List Char)} {ms : List (String × Json)}
    (h : List.Forall₂ (ReadsMember depth) ts ms) :
    Reads (depth + 1) ('\x7b' :: listed '\x7d' ts) (ofMembers ms) where
  starts := ⟨_, _, rfl, rfl, by decide⟩
  readValue?_eq fuel r hfuel _ := by
    obtain ⟨fuel, rfl⟩ := Nat.exists_eq_succ_of_ne_zero (by omega : fuel ≠ 0)
    rw [List.length_cons] at hfuel
    rw [List.cons_append, readValue?]
    simp only [skipSpace_cons (c := '\x7b') rfl]
    rw [if_neg (by omega)]
    cases h with
    | nil => rfl
    | @cons t m ts ms hread hrest =>
      have hmembers := readMembers?_listed (.cons hread hrest) (by simp)
        (by omega : 2 * (listed '\x7d' (t :: ts)).length < fuel) r
      obtain ⟨v, rfl, -⟩ := hread
      obtain ⟨u, hu⟩ := exists_listed_cons '\x7d' '"'
        (m.1.toList.flatMap escapeChar ++ ['"'] ++ ':' :: v) ts
      have hquoted : quoted m.1 ++ ':' :: v =
          '"' :: (m.1.toList.flatMap escapeChar ++ ['"'] ++ ':' :: v) := by
        simp [quoted]
      rw [hquoted, hu, List.cons_append] at hmembers
      rw [hquoted, hu, List.cons_append, skipSpace_cons (c := '"') rfl]
      simp [hmembers]

/-- A text that is read as a document of the deepest nesting is one. -/
theorem Reads.read?_eq {t : List Char} {j : Json} (h : Reads maxDepth t j) :
    read? (String.ofList t) = some j := by
  have hread := h.readValue?_eq (2 * t.length + 2) [] le_rfl (by simp [Ends])
  rw [List.append_nil] at hread
  simp [read?, hread]

theorem ofBytes?_toUTF8 (s : String) : ofBytes? s.toUTF8 = read? s := by
  have hutf8 : String.fromUTF8? s.toUTF8 = some s := dif_pos s.isValidUTF8
  rw [ofBytes?, hutf8]
  rfl

/-- The bytes of a text that is read as a document are read as it. -/
theorem Reads.ofBytes?_eq {t : List Char} {j : Json} (h : Reads maxDepth t j) :
    ofBytes? (String.ofList t).toUTF8 = some j :=
  (ofBytes?_toUTF8 _).trans h.read?_eq

end RemoteTable.Json
