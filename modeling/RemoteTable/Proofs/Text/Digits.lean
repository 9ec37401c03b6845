import Mathlib
import RemoteTable.Text.Blank
import RemoteTable.Text.Digits

/-!
The digits of naturals and the numbers that digits make, and what is read of a text that starts with
digits: all of them, if it goes on with something else, or as many as there may be.
-/

namespace RemoteTable.Text

/-- All characters of a text are decimal digits. -/
def IsDigits (ds : List Char) : Prop := ∀ c ∈ ds, c.isDigit = true

/-- A text does not go on with a decimal digit. -/
def Halts (r : List Char) : Prop := ∀ c ∈ r.head?, c.isDigit = false

theorem halts_nil : Halts [] := by simp [Halts]

theorem halts_cons {c : Char} (h : c.isDigit = false) (r : List Char) : Halts (c :: r) := by
  simpa [Halts] using h

theorem isDigits_digits (n : Nat) : IsDigits (digits n) := fun _ h =>
  Nat.isDigit_of_mem_toDigits (by decide) (by decide) h

theorem isDigits_padded (width n : Nat) : IsDigits (padded width n) := fun _ =>
  isDigit_of_mem_padded

theorem digits_ne_nil (n : Nat) : digits n ≠ [] := Nat.toDigits_ne_nil

theorem padded_ne_nil (width n : Nat) : padded width n ≠ [] :=
  List.append_ne_nil_of_right_ne_nil _ (digits_ne_nil n)

theorem length_padded (width n : Nat) :
    (padded width n).length = max width (digits n).length := by
  rw [padded, List.length_append, List.length_replicate]
  omega

/-- A natural that has no more digits than the least width is written in that width. -/
theorem length_padded_of_lt {width n : Nat} (hwidth : 0 < width) (h : n < 10 ^ width) :
    (padded width n).length = width := by
  have hle : (digits n).length ≤ width := (Nat.length_toDigits_le_iff (by decide) hwidth).2 h
  rw [length_padded]
  omega

theorem numeral_append (ds es : List Char) :
    numeral (ds ++ es) = 10 ^ es.length * numeral ds + numeral es := by
  rw [numeral, Nat.ofDigitChars_append, Nat.ofDigitChars_eq_ofDigitChars_zero]
  rfl

theorem numeral_replicate (n : Nat) : numeral (List.replicate n '0') = 0 := by
  rw [numeral, Nat.ofDigitChars_replicate_zero, Nat.mul_zero]

theorem numeral_zeros_append (n : Nat) (ds : List Char) :
    numeral (List.replicate n '0' ++ ds) = numeral ds := by
  rw [numeral_append, numeral_replicate, Nat.mul_zero, Nat.zero_add]

theorem numeral_append_zeros (ds : List Char) (n : Nat) :
    numeral (ds ++ List.replicate n '0') = 10 ^ n * numeral ds := by
  rw [numeral_append, numeral_replicate, List.length_replicate, Nat.add_zero]

theorem isDigits_replicate (n : Nat) : IsDigits (List.replicate n '0') := fun c h => by
  rw [List.eq_of_mem_replicate h]
  rfl

theorem numeral_append_singleton (ds : List Char) (c : Char) :
    numeral (ds ++ [c]) = 10 * numeral ds + (c.toNat - '0'.toNat) := by
  rw [numeral_append, numeral, numeral, Nat.ofDigitChars_cons, Nat.ofDigitChars_nil]
  simp

theorem toNat_of_isDigit {c : Char} (h : c.isDigit = true) : 48 ≤ c.toNat ∧ c.toNat ≤ 57 := by
  simp only [Char.isDigit, Bool.and_eq_true, decide_eq_true_eq] at h
  exact h

theorem numeral_lt {ds : List Char} (h : IsDigits ds) : numeral ds < 10 ^ ds.length := by
  induction ds using List.reverseRecOn with
  | nil => exact Nat.one_pos
  | append_singleton ds c ih =>
    obtain ⟨hds, hc⟩ := List.forall_mem_append.1 h
    have hdigit := toNat_of_isDigit (hc c (.head _))
    have hlt := ih hds
    have hbase : '0'.toNat = 48 := rfl
    rw [numeral_append_singleton, List.length_append, List.length_singleton, pow_succ]
    omega

/-- No zero stands in front of the digits of a natural. -/
theorem digits_ne_zero_cons {n : Nat} (hn : n ≠ 0) (r : List Char) : digits n ≠ '0' :: r := by
  intro h
  have hnumeral : numeral r = n := by
    rw [← numeral_digits n, h, ← numeral_zeros_append 1 r]
    rfl
  have hr : IsDigits r := fun c hc => isDigits_digits n c (h ▸ List.mem_cons_of_mem _ hc)
  have hlt := numeral_lt hr
  rw [hnumeral] at hlt
  obtain rfl | hne := eq_or_ne r []
  · exact hn hnumeral.symm
  · have hlength : (digits n).length ≤ r.length :=
      (Nat.length_toDigits_le_iff (by decide) (List.length_pos_iff.2 hne)).2 hlt
    rw [h, List.length_cons] at hlength
    omega

theorem natural?_digits (n : Nat) : natural? (digits n) = some n := by
  have hall : (digits n).all Char.isDigit = true := List.all_eq_true.2 (isDigits_digits n)
  rw [natural?, if_pos ⟨digits_ne_nil n, hall⟩, numeral_digits]

/-- A natural lies between the powers of ten that the number of its digits says. -/
theorem length_digits_bounds {n : Nat} (hn : n ≠ 0) :
    10 ^ ((digits n).length - 1) ≤ n ∧ n < 10 ^ (digits n).length := by
  have hpos : 0 < (digits n).length := List.length_pos_iff.2 (digits_ne_nil n)
  refine ⟨?_, (Nat.length_toDigits_le_iff (by decide) hpos).1 le_rfl⟩
  obtain hone | hmore := Nat.eq_zero_or_pos ((digits n).length - 1)
  · rw [hone]
    exact Nat.one_le_iff_ne_zero.2 hn
  · refine not_lt.1 fun h => ?_
    have hle : (digits n).length ≤ (digits n).length - 1 :=
      (Nat.length_toDigits_le_iff (by decide) hmore).2 h
    omega

/-- A digit other than zero at the end. -/
theorem numeral_append_mod_ten {c : Char} (ds : List Char) (hc : c.isDigit = true) (hne : c ≠ '0') :
    numeral (ds ++ [c]) % 10 ≠ 0 := by
  rw [numeral_append_singleton]
  have hdigit := toNat_of_isDigit hc
  have hzero : c.toNat ≠ 48 := fun h => hne (Char.toNat_inj.1 h)
  have hbase : '0'.toNat = 48 := rfl
  omega

/-- The digits of a natural without the zeros at their end. -/
theorem exists_digits_eq {n : Nat} (hn : n ≠ 0) : ∃ kept k,
    ((digits n).reverse.dropWhile (· == '0')).reverse = kept ∧
      digits n = kept ++ List.replicate k '0' ∧ numeral kept % 10 ≠ 0 := by
  have hsplit := congrArg List.reverse
    (List.takeWhile_append_dropWhile (p := (· == '0')) (l := (digits n).reverse))
  rw [List.reverse_append, List.reverse_reverse] at hsplit
  have hzeros : ∀ c ∈ ((digits n).reverse.takeWhile (· == '0')).reverse, c = '0' := by
    intro c hc
    simpa using List.mem_takeWhile_imp (List.mem_reverse.1 hc)
  rw [List.eq_replicate_of_mem hzeros] at hsplit
  refine ⟨_, _, rfl, hsplit.symm, ?_⟩
  have hne : (digits n).reverse.dropWhile (· == '0') ≠ [] := by
    intro hnil
    have hvalue := congrArg numeral hsplit
    rw [hnil, numeral_digits, List.reverse_nil, List.nil_append, numeral_replicate] at hvalue
    exact hn hvalue.symm
  have hhead := List.head_dropWhile_not _ hne
  obtain ⟨c, r, hcons⟩ := List.exists_cons_of_ne_nil hne
  have hmem : c ∈ digits n :=
    List.mem_reverse.1 ((List.dropWhile_suffix _).subset (hcons ▸ List.mem_cons_self))
  simp only [hcons, List.head_cons, beq_eq_false_iff_ne] at hhead
  rw [hcons, List.reverse_cons]
  exact numeral_append_mod_ten _ (isDigits_digits n c hmem) hhead

section

variable {ds r : List Char}

theorem IsDigits.takeWhile_eq (h : IsDigits ds) : ds.takeWhile Char.isDigit = ds := by
  induction ds with
  | nil => rfl
  | cons c ds ih =>
    obtain ⟨hc, hds⟩ := List.forall_mem_cons.1 h
    rw [List.takeWhile_cons_of_pos hc, ih hds]

theorem Halts.takeWhile_eq_nil (h : Halts r) : r.takeWhile Char.isDigit = [] := by
  cases r with
  | nil => rfl
  | cons c r => simp [h c rfl]

theorem Halts.dropWhile_eq (h : Halts r) : r.dropWhile Char.isDigit = r := by
  cases r with
  | nil => rfl
  | cons c r => simp [h c rfl]

theorem spanDigits_append (hds : IsDigits ds) (hr : Halts r) : spanDigits (ds ++ r) = (ds, r) := by
  rw [spanDigits, List.takeWhile_append_of_pos hds, List.dropWhile_append_of_pos hds,
    hr.takeWhile_eq_nil, hr.dropWhile_eq, List.append_nil]

/-- Of digits as many as there may be, all are read, whatever comes after them. -/
theorem takeDigits_append (hds : IsDigits ds) (r : List Char) :
    takeDigits ds.length (ds ++ r) = (ds, r) := by
  rw [takeDigits, List.take_left, hds.takeWhile_eq, List.drop_left]

theorem isBlank_eq_false_of_isDigit {c : Char} (h : c.isDigit = true) : isBlank c = false := by
  have hall : ∀ n : Fin 10, within blankBounds (48 + n.val) = false := by decide
  obtain ⟨hlow, hhigh⟩ := toNat_of_isDigit h
  have hc := hall ⟨c.toNat - 48, by omega⟩
  rwa [show 48 + (c.toNat - 48) = c.toNat by omega] at hc

theorem dropBlanks_cons {c : Char} (h : isBlank c = false) (r : List Char) :
    dropBlanks (c :: r) = c :: r := by
  simp [dropBlanks, h]

theorem dropBlanks_digits (hds : IsDigits ds) (hne : ds ≠ []) (r : List Char) :
    dropBlanks (ds ++ r) = ds ++ r := by
  cases ds with
  | nil => exact absurd rfl hne
  | cons c ds => exact dropBlanks_cons (isBlank_eq_false_of_isDigit (hds c (.head ds))) (ds ++ r)

end

end RemoteTable.Text
