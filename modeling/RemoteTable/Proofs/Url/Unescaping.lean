import Mathlib
import RemoteTable.Text.Split
import RemoteTable.Url.Reader

/-!
The two ways of escaping are read back. What is escaped with percent signs, be it a segment of a path
or a part of a form, is unescaped to the text that it came from, and a query is divided into its
pairs at the ampersands and at the first sign of equality of each part.
-/

namespace RemoteTable

namespace Text

variable {mark : Char}

theorem splitAtChar_ne_nil (s : List Char) : splitAtChar mark s ≠ [] := by
  cases s with
  | nil => exact List.cons_ne_nil _ _
  | cons c s =>
    rw [splitAtChar]
    split
    · exact List.cons_ne_nil _ _
    · split <;> exact List.cons_ne_nil _ _

theorem splitAtChar_of_not_mem {a : List Char} (h : mark ∉ a) : splitAtChar mark a = [a] := by
  induction a with
  | nil => rfl
  | cons c a ih =>
    rw [splitAtChar, ih (List.not_mem_of_not_mem_cons h)]
    exact if_neg (Ne.symm (List.ne_of_not_mem_cons h))

theorem splitAtChar_append {a : List Char} (h : mark ∉ a) (r : List Char) :
    splitAtChar mark (a ++ mark :: r) = a :: splitAtChar mark r := by
  induction a with
  | nil =>
    rw [List.nil_append, splitAtChar]
    cases hr : splitAtChar mark r with
    | nil => exact absurd hr (splitAtChar_ne_nil r)
    | cons s rest => exact if_pos rfl
  | cons c a ih =>
    rw [List.cons_append, splitAtChar, ih (List.not_mem_of_not_mem_cons h)]
    exact if_neg (Ne.symm (List.ne_of_not_mem_cons h))

end Text

namespace Url

open Text

/-! ### Percent signs -/

theorem unescape_cons {c : Char} (h : c ≠ '%') (r : List Char) :
    unescape (c :: r) = String.utf8EncodeChar c ++ unescape r := by
  rw [unescape]
  rintro a b r' rfl
  exact absurd rfl h

theorem unescape_escapeByte (b : UInt8) (r : List Char) :
    unescape (escapeByte b ++ r) = b :: unescape r := by
  have hbyte : UInt8.ofNat ((nibbles b).1.val * 16 + (nibbles b).2.val) = b := by
    have hnat : (nibbles b).1.val * 16 + (nibbles b).2.val = b.toNat := by
      simp only [nibbles]
      omega
    rw [hnat, UInt8.ofNat_toNat]
  have hescape : escapeByte b ++ r =
      '%' :: hexCharUpper (nibbles b).1 :: hexCharUpper (nibbles b).2 :: r := rfl
  rw [hescape, unescape]
  simp only [hexDigit?_hexCharUpper, hbyte]

theorem unescape_escapeBytes (l : List UInt8) (r : List Char) :
    unescape (l.flatMap escapeByte ++ r) = l ++ unescape r := by
  induction l with
  | nil => rfl
  | cons b l ih =>
    rw [List.flatMap_cons, List.append_assoc, unescape_escapeByte, ih]
    rfl

/-- A class that escapes the percent sign loses nothing. -/
theorem unescape_escape {escaped : Char → Bool} (h : escaped '%' = true) (s r : List Char) :
    unescape (escape escaped s ++ r) = bytesOf s ++ unescape r := by
  induction s with
  | nil => rfl
  | cons c s ih =>
    rw [escape, List.flatMap_cons, bytesOf, List.flatMap_cons, List.append_assoc, List.append_assoc]
    rw [escape, bytesOf] at ih
    by_cases hc : escaped c = true
    · rw [if_pos hc, unescape_escapeBytes, ih]
    · have hne : c ≠ '%' := fun heq => hc (heq ▸ h)
      rw [if_neg hc, List.singleton_append, unescape_cons hne, ih]

/-- The text that an escaped text stands for, if its bytes are one. -/
def decoded? (s : List Char) : Option String := String.fromUTF8? ⟨(unescape s).toArray⟩

theorem fromUTF8?_bytesOf (s : List Char) :
    String.fromUTF8? ⟨(bytesOf s).toArray⟩ = some (String.ofList s) := by
  have hbytes : (⟨(bytesOf s).toArray⟩ : ByteArray) = (String.ofList s).toByteArray := by
    rw [String.toByteArray_ofList, List.utf8Encode, ← bytesOf]
    exact congrArg ByteArray.mk List.data_toByteArray.symm
  rw [hbytes]
  exact dif_pos (String.ofList s).isValidUTF8

theorem decoded?_escape {escaped : Char → Bool} (h : escaped '%' = true) (s : List Char) :
    decoded? (escape escaped s) = some (String.ofList s) := by
  have hbytes := unescape_escape h s []
  rw [List.append_nil] at hbytes
  rw [decoded?, hbytes]
  simp only [unescape, List.append_nil]
  exact fromUTF8?_bytesOf s

/-! ### Forms -/

/-- A part of a form with the blanks that plus signs stand for. -/
def withBlanks (s : List Char) : List Char := s.map fun c => if c = '+' then ' ' else c

/-- The text that a part of a form stands for. -/
def formDecoded? (s : List Char) : Option String := decoded? (withBlanks s)

/-- The pair of a part of a query. -/
def pair? (s : List Char) : Option (String × String) :=
  match cutMark '=' s with
  | (key, value) => do
    let k ← formDecoded? key
    let v ← formDecoded? (value.getD [])
    some (k, v)

/-- The pairs of a query. -/
def pairs? (query : List Char) : Option (List (String × String)) :=
  (splitAtChar '&' query).mapM pair?

theorem hexCharUpper_ne (d : Fin 16) : hexCharUpper d ∉ ['+', '&', '=', '/'] := by
  revert d
  decide

theorem not_mem_escapeByte {c : Char} (hc : c ∈ ['+', '&', '=', '/']) (b : UInt8) :
    c ∉ escapeByte b := by
  intro h
  have hmem : c ∈ ['%', hexCharUpper (nibbles b).1, hexCharUpper (nibbles b).2] := h
  simp only [List.mem_cons, List.not_mem_nil, or_false] at hmem
  rcases hmem with rfl | rfl | rfl
  · simp at hc
  · exact hexCharUpper_ne _ hc
  · exact hexCharUpper_ne _ hc

theorem utf8EncodeChar_ofNat {n : Nat} (h : n < 128) :
    String.utf8EncodeChar (Char.ofNat n) = [UInt8.ofNat n] := by
  have hall : ∀ n : Fin 128, String.utf8EncodeChar (Char.ofNat n.val) = [UInt8.ofNat n.val] := by
    decide
  exact hall ⟨n, h⟩

theorem toNat_ofNat {n : Nat} (h : n < 128) : (Char.ofNat n).toNat = n := by
  rw [Char.toNat_ofNat, if_pos (.inl (by omega))]

/-- A byte in a form is a blank, or escaped, or one character that marks nothing. -/
theorem formByte_cases (b : UInt8) :
    (b = 32 ∧ formByte b = ['+']) ∨ formByte b = escapeByte b ∨
      ∃ c, formByte b = [c] ∧ String.utf8EncodeChar c = [b] ∧ c ∉ ['+', '%', '&', '='] := by
  unfold formByte
  split
  · exact .inl ⟨‹_›, rfl⟩
  · split
    next hplain =>
      have hbounds : b.toNat < 128 ∧ b.toNat ∉ [43, 37, 38, 61] := by
        simp [isFormPlain] at hplain ⊢
        omega
      refine .inr (.inr ⟨_, rfl, ?_, fun hmem => hbounds.2 ?_⟩)
      · rw [utf8EncodeChar_ofNat hbounds.1, UInt8.ofNat_toNat]
      · have hnat := List.mem_map_of_mem (f := Char.toNat) hmem
        rwa [toNat_ofNat hbounds.1] at hnat
    · exact .inr (.inl rfl)

theorem withBlanks_of_not_mem {s : List Char} (h : '+' ∉ s) : withBlanks s = s := by
  refine (List.map_congr_left fun c hc => ?_).trans (List.map_id s)
  have hne : c ≠ '+' := fun heq => h (heq ▸ hc)
  exact if_neg hne

theorem unescape_formByte (b : UInt8) (r : List Char) :
    unescape (withBlanks (formByte b) ++ r) = b :: unescape r := by
  rcases formByte_cases b with ⟨rfl, h⟩ | h | ⟨c, h, hbyte, hc⟩
  · rw [h]
    exact unescape_cons (by decide) r
  · rw [h, withBlanks_of_not_mem (not_mem_escapeByte (by decide) b), unescape_escapeByte]
  · simp only [List.mem_cons, List.not_mem_nil, or_false, not_or] at hc
    have hblanks : withBlanks [c] = [c] := withBlanks_of_not_mem (by simp [Ne.symm hc.1])
    rw [h, hblanks, List.singleton_append, unescape_cons hc.2.1, hbyte]
    rfl

theorem unescape_formBytes (l : List UInt8) :
    unescape (withBlanks (l.flatMap formByte)) = l := by
  induction l with
  | nil => rfl
  | cons b l ih =>
    rw [List.flatMap_cons, withBlanks, List.map_append, ← withBlanks, ← withBlanks,
      unescape_formByte, ih]

theorem formDecoded?_formEncode (s : String) : formDecoded? (formEncode s) = some s := by
  rw [formDecoded?, decoded?, formEncode, unescape_formBytes, fromUTF8?_bytesOf, String.ofList_toList]

/-- What divides a query is not in its parts. -/
theorem not_mem_formEncode {c : Char} (hc : c ∈ ['&', '=']) (s : String) : c ∉ formEncode s := by
  intro h
  obtain ⟨b, -, hb⟩ := List.mem_flatMap.1 h
  have hother : c ∈ ['+', '&', '=', '/'] := by
    fin_cases hc <;> simp
  rcases formByte_cases b with ⟨-, hform⟩ | hform | ⟨d, hform, -, hd⟩
  · rw [hform, List.mem_singleton] at hb
    rw [hb] at hc
    simp at hc
  · rw [hform] at hb
    exact not_mem_escapeByte hother b hb
  · rw [hform, List.mem_singleton] at hb
    rw [← hb] at hd
    fin_cases hc <;> simp at hd

theorem cutMark_append {mark : Char} {a : List Char} (h : mark ∉ a) (r : List Char) :
    cutMark mark (a ++ mark :: r) = (a, some r) := by
  have hall : ∀ c ∈ a, (!(c == mark)) = true := by
    intro c hc
    rw [Bool.not_eq_true', beq_eq_false_iff_ne]
    rintro rfl
    exact h hc
  rw [cutMark, cut, List.takeWhile_append_of_pos hall, List.dropWhile_append_of_pos hall]
  simp

theorem pair?_formPair (p : String × String) : pair? (formPair p) = some p := by
  rw [pair?, formPair, cutMark_append (not_mem_formEncode (by simp) p.1)]
  simp only [Option.getD_some, formDecoded?_formEncode, Option.bind_eq_bind, Option.bind_some]

theorem not_mem_formPair (p : String × String) : '&' ∉ formPair p := by
  rw [formPair, List.mem_append, List.mem_cons, not_or, not_or]
  exact ⟨not_mem_formEncode (by simp) p.1, by decide, not_mem_formEncode (by simp) p.2⟩

/-- A query is divided into its parts at the ampersands. -/
theorem splitAtChar_formPairs {l : List (String × String)} (h : l ≠ []) :
    splitAtChar '&' (formPairs l) = l.map formPair := by
  induction l with
  | nil => exact absurd rfl h
  | cons p l ih =>
    cases l with
    | nil => exact splitAtChar_of_not_mem (not_mem_formPair p)
    | cons q l =>
      have hform : formPairs (p :: q :: l) = formPair p ++ '&' :: formPairs (q :: l) := rfl
      rw [hform, splitAtChar_append (not_mem_formPair p), ih (List.cons_ne_nil q l)]
      rfl

/-- The pairs of a query are found in it, in their order. -/
theorem pairs?_formPairs {l : List (String × String)} (h : l ≠ []) :
    pairs? (formPairs l) = some l := by
  rw [pairs?, splitAtChar_formPairs h]
  clear h
  induction l with
  | nil => rfl
  | cons p l ih =>
    rw [List.map_cons, List.mapM_cons, pair?_formPair, ih]
    rfl

end Url

end RemoteTable
