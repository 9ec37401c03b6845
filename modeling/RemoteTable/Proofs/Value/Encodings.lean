import Mathlib
import RemoteTable.Text.Base64
import RemoteTable.Uuid

/-!
Bytes and identifiers are read as they are written.
-/

namespace RemoteTable

namespace Text.Base64

theorem symbol_ne_equals {n : Nat} (h : n < 64) : symbol n ≠ '=' := by
  intro heq
  have hsextet := sextet?_symbol h
  rw [heq, show sextet? '=' = none by decide] at hsextet
  cases hsextet

theorem ofNat_eq {n : Nat} {a : UInt8} (h : n = a.toNat) : UInt8.ofNat n = a := by
  rw [h, UInt8.ofNat_toNat]

/-- Bytes are read back, with or without equals signs at their end. -/
theorem decode_encode (bytes : List UInt8) : decode (encode bytes) = some bytes := by
  fun_induction encode bytes with
  | case1 => rfl
  | case2 a =>
    have ha := a.toNat_lt
    have hw : sextet? (symbol (a.toNat / 4)) = _ := sextet?_symbol (by omega)
    have hx : sextet? (symbol (a.toNat % 4 * 16)) = _ := sextet?_symbol (by omega)
    simp only [decode, hw, hx, Option.bind_eq_bind, Option.bind_some]
    rw [if_pos (by omega), ofNat_eq (a := a) (by omega)]
  | case3 a b =>
    have ha := a.toNat_lt
    have hb := b.toNat_lt
    have hw : sextet? (symbol (a.toNat / 4)) = _ := sextet?_symbol (by omega)
    have hx : sextet? (symbol (a.toNat % 4 * 16 + b.toNat / 16)) = _ := sextet?_symbol (by omega)
    have hy : sextet? (symbol (b.toNat % 16 * 4)) = _ := sextet?_symbol (by omega)
    rw [decode.eq_3 _ _ _ (symbol_ne_equals (by omega))]
    simp only [hw, hx, hy, Option.bind_eq_bind, Option.bind_some]
    rw [if_pos (by omega), ofNat_eq (a := a) (by omega), ofNat_eq (a := b) (by omega)]
  | case4 a b c r ih =>
    have ha := a.toNat_lt
    have hb := b.toNat_lt
    have hc := c.toNat_lt
    have hw : sextet? (symbol (a.toNat / 4)) = _ := sextet?_symbol (by omega)
    have hx : sextet? (symbol (a.toNat % 4 * 16 + b.toNat / 16)) = _ := sextet?_symbol (by omega)
    have hy : sextet? (symbol (b.toNat % 16 * 4 + c.toNat / 64)) = _ := sextet?_symbol (by omega)
    have hz : sextet? (symbol (c.toNat % 64)) = _ := sextet?_symbol (by omega)
    have hfull : symbol (c.toNat % 64) ≠ '=' := symbol_ne_equals (by omega)
    rw [decode.eq_4 _ _ _ _ _ (fun _ h _ => hfull h) (fun h _ => hfull h)]
    simp only [hw, hx, hy, hz, ih, Option.bind_eq_bind, Option.bind_some]
    rw [ofNat_eq (a := a) (by omega), ofNat_eq (a := b) (by omega), ofNat_eq (a := c) (by omega)]

end Text.Base64

namespace Uuid

open Text

/-- Groups are joined as they were before the hyphens. -/
theorem joinGroups?_append {a b c d e : List Char} (ha : a.length = 8) (hb : b.length = 4)
    (hc : c.length = 4) (hd : d.length = 4) (he : e.length = 12) :
    joinGroups? (a ++ '-' :: b ++ '-' :: c ++ '-' :: d ++ '-' :: e) =
      some (a ++ b ++ c ++ d ++ e) := by
  simp [joinGroups?, ha, hb, hc, hd, he, List.drop_append, List.drop_eq_nil_of_le]

theorem take_drop_append {α : Type} (s : List α) (i k : Nat) :
    (s.drop i).take k ++ s.drop (i + k) = s.drop i := by
  rw [← List.drop_drop, List.take_append_drop]

theorem mapM_hexDigit? (ds : List (Fin 16)) : (ds.map hexChar).mapM hexDigit? = some ds := by
  induction ds with
  | nil => rfl
  | cons d ds ih => rw [List.map_cons, List.mapM_cons, hexDigit?_hexChar, ih]; rfl

theorem ofDigits?_digits (u : Uuid) : ofDigits? (u.digits.map hexChar) = some u := by
  rw [ofDigits?, mapM_hexDigit?]
  exact dif_pos u.length_eq

/-- Identifiers are read back. -/
theorem read?_text (u : Uuid) : read? u.text = some u := by
  have hlength : (u.digits.map hexChar).length = 32 := by rw [List.length_map, u.length_eq]
  have hjoin : joinGroups? u.text = some (u.digits.map hexChar) := by
    rw [text, joinGroups?_append (by simp [hlength]) (by simp [hlength]) (by simp [hlength])
      (by simp [hlength]) (by simp [hlength])]
    simp only [List.append_assoc]
    rw [take_drop_append _ 16 4, take_drop_append _ 12 4, take_drop_append _ 8 4,
      List.take_append_drop]
  have htext : u.text.length = 36 := by
    simp [text, hlength]
  rw [read?, if_neg (by omega), if_pos htext, hjoin]
  exact ofDigits?_digits u

end Uuid

end RemoteTable
