/-!
Hexadecimal digits in both cases.
-/

namespace RemoteTable.Text

/-- The lower-case character of a hexadecimal digit. -/
def hexChar (d : Fin 16) : Char :=
  if d.val < 10 then Char.ofNat (d.val + 48) else Char.ofNat (d.val + 87)

/-- The upper-case character of a hexadecimal digit. -/
def hexCharUpper (d : Fin 16) : Char :=
  if d.val < 10 then Char.ofNat (d.val + 48) else Char.ofNat (d.val + 55)

/-- The value of a hexadecimal digit in either case. -/
def hexDigit? (c : Char) : Option (Fin 16) :=
  if h : 48 ≤ c.toNat ∧ c.toNat < 58 then some ⟨c.toNat - 48, by omega⟩
  else if h : 97 ≤ c.toNat ∧ c.toNat < 103 then some ⟨c.toNat - 87, by omega⟩
  else if h : 65 ≤ c.toNat ∧ c.toNat < 71 then some ⟨c.toNat - 55, by omega⟩
  else none

@[simp] theorem hexDigit?_hexChar (d : Fin 16) : hexDigit? (hexChar d) = some d := by
  revert d; decide

@[simp] theorem hexDigit?_hexCharUpper (d : Fin 16) : hexDigit? (hexCharUpper d) = some d := by
  revert d; decide

/-- The two digits of a byte. -/
def nibbles (b : UInt8) : Fin 16 × Fin 16 :=
  (⟨b.toNat / 16, by have := b.toNat_lt; omega⟩, ⟨b.toNat % 16, by omega⟩)

/-- The hexadecimal digits of a natural in lower case, without leading zeros. -/
def hexDigits (n : Nat) : List Char := Nat.toDigits 16 n

end RemoteTable.Text
