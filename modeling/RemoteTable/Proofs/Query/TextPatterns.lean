import Mathlib
import RemoteTable.Proofs.Query.Translation

/-!
Text methods and their patterns. The pattern of a text method finds the texts that its argument is
read as; an argument without asterisks is read as itself alone, so that exactly the rows are found
that the method asks for. With an asterisk in the argument further rows are found.
-/

namespace RemoteTable

namespace Pattern

/-- What a pattern stands for: an asterisk for any run of characters, every other character for
itself. -/
inductive Matches : List Char → List Char → Prop
  | nil : Matches [] []
  | run (l : List Char) {p s : List Char} (rest : Matches p s) : Matches ('*' :: p) (l ++ s)
  | char {c : Char} {p s : List Char} (plain : c ≠ '*') (rest : Matches p s) :
      Matches (c :: p) (c :: s)

variable {p q s t : List Char}

theorem matches_nil : Matches [] s ↔ s = [] := by
  constructor
  · intro h
    cases h
    rfl
  · rintro rfl
    exact .nil

theorem matches_run : Matches ('*' :: p) s ↔ ∃ l r, s = l ++ r ∧ Matches p r := by
  constructor
  · intro h
    cases h with
    | run l rest => exact ⟨l, _, rfl, rest⟩
    | char plain => exact absurd rfl plain
  · rintro ⟨l, r, rfl, hr⟩
    exact .run l hr

theorem matches_char {c : Char} (hc : c ≠ '*') :
    Matches (c :: p) s ↔ ∃ r, s = c :: r ∧ Matches p r := by
  constructor
  · intro h
    cases h with
    | run => exact absurd rfl hc
    | char _ rest => exact ⟨_, rfl, rest⟩
  · rintro ⟨r, rfl, hr⟩
    exact .char hc hr

/-- The matcher decides the relation. -/
theorem matchesPattern_iff : matchesPattern p s = true ↔ Matches p s := by
  induction p generalizing s with
  | nil => rw [matches_nil, matchesPattern, List.isEmpty_iff]
  | cons c p ih =>
    by_cases hc : c = '*'
    · subst hc
      rw [matches_run, matchesPattern, List.any_eq_true]
      simp only [List.mem_tails, ih]
      constructor
      · rintro ⟨r, ⟨l, rfl⟩, hr⟩
        exact ⟨l, r, rfl, hr⟩
      · rintro ⟨l, r, rfl, hr⟩
        exact ⟨r, ⟨l, rfl⟩, hr⟩
    · rw [matches_char hc]
      cases s with
      | nil => simp [matchesPattern]
      | cons d s =>
        have hstep : matchesPattern (c :: p) (d :: s) = (c == d && matchesPattern p s) := by
          rw [matchesPattern]
          exact hc
        rw [hstep, Bool.and_eq_true, beq_iff_eq, ih]
        constructor
        · rintro ⟨rfl, hs⟩
          exact ⟨s, rfl, hs⟩
        · rintro ⟨r, h, hr⟩
          obtain ⟨rfl, rfl⟩ := List.cons.inj h
          exact ⟨rfl, hr⟩

theorem matches_append :
    Matches (p ++ q) s ↔ ∃ a b, s = a ++ b ∧ Matches p a ∧ Matches q b := by
  induction p generalizing s with
  | nil => simp [matches_nil]
  | cons c p ih =>
    rw [List.cons_append]
    by_cases hc : c = '*'
    · subst hc
      simp only [matches_run, ih]
      constructor
      · rintro ⟨l, r, rfl, a, b, rfl, ha, hb⟩
        exact ⟨l ++ a, b, (List.append_assoc ..).symm, ⟨l, a, rfl, ha⟩, hb⟩
      · rintro ⟨x, b, rfl, ⟨l, a, rfl, ha⟩, hb⟩
        exact ⟨l, a ++ b, List.append_assoc .., a, b, rfl, ha, hb⟩
    · simp only [matches_char hc, ih]
      constructor
      · rintro ⟨r, rfl, a, b, rfl, ha, hb⟩
        exact ⟨c :: a, b, rfl, ⟨a, rfl, ha⟩, hb⟩
      · rintro ⟨x, b, rfl, ⟨a, rfl, ha⟩, hb⟩
        exact ⟨a ++ b, rfl, a, b, rfl, ha, hb⟩

/-- A single asterisk stands for every text. -/
theorem matches_asterisk (s : List Char) : Matches ['*'] s := by
  have h := Matches.run s .nil
  rwa [List.append_nil] at h

/-- Every text is among those that it is read as. -/
theorem matches_self (t : List Char) : Matches t t := by
  induction t with
  | nil => exact .nil
  | cons c t ih =>
    by_cases hc : c = '*'
    · subst hc
      exact .run ['*'] ih
    · exact .char hc ih

/-- A text without asterisks is read as itself alone. -/
theorem matches_plain (ht : '*' ∉ t) : Matches t s ↔ s = t := by
  induction t generalizing s with
  | nil => exact matches_nil
  | cons c t ih =>
    rw [List.mem_cons, not_or] at ht
    rw [matches_char (Ne.symm ht.1)]
    simp [ih ht.2]

/-- The asterisks of a text may stand for nothing. -/
theorem matches_filter (t : List Char) : Matches t (t.filter (· != '*')) := by
  induction t with
  | nil => exact .nil
  | cons c t ih =>
    by_cases hc : c = '*'
    · subst hc
      exact .run [] ih
    · rw [List.filter_cons_of_pos (by simpa using hc)]
      exact .char hc ih

theorem length_filter_lt (ht : '*' ∈ t) : (t.filter (· != '*')).length < t.length := by
  refine List.length_filter_lt_length_iff_exists.2 ⟨'*', ht, ?_⟩
  simp

end Pattern

namespace CallName

/-- What a text method asks for: the text anywhere, at the start or at the end. -/
def Finds (method : CallName) (t s : List Char) : Prop :=
  match method with
  | .startsWith => t <+: s
  | .endsWith => t <:+ s
  | _ => t <:+: s

variable {method : CallName} {t s : List Char}

theorem finds_self (method : CallName) (t : List Char) : method.Finds t t := by
  cases method with
  | startsWith => exact List.prefix_rfl
  | endsWith => exact List.suffix_rfl
  | _ => exact List.infix_rfl

theorem Finds.length_le (h : method.Finds t s) : t.length ≤ s.length := by
  cases method with
  | startsWith => exact List.IsPrefix.length_le h
  | endsWith => exact List.IsSuffix.length_le h
  | _ => exact List.IsInfix.length_le h

/-- The pattern of a method finds what its argument is read as. -/
theorem matches_pattern (text : String) : Pattern.Matches (Predicate.pattern method text).toList s ↔
    ∃ b, Pattern.Matches text.toList b ∧ method.Finds b s := by
  have hstar : "*".toList = ['*'] := rfl
  have hanywhere : Pattern.Matches ("*" ++ text ++ "*").toList s ↔
      ∃ b, Pattern.Matches text.toList b ∧ b <:+: s := by
    simp only [String.toList_append, hstar, Pattern.matches_append]
    constructor
    · rintro ⟨x, c, rfl, ⟨a, b, rfl, -, hb⟩, -⟩
      exact ⟨b, hb, a, c, rfl⟩
    · rintro ⟨b, hb, a, c, rfl⟩
      exact ⟨_, c, rfl, ⟨a, b, rfl, Pattern.matches_asterisk a, hb⟩, Pattern.matches_asterisk c⟩
  cases method with
  | startsWith =>
    simp only [Predicate.pattern, String.toList_append, hstar, Pattern.matches_append, Finds]
    constructor
    · rintro ⟨b, c, rfl, hb, -⟩
      exact ⟨b, hb, c, rfl⟩
    · rintro ⟨b, hb, c, rfl⟩
      exact ⟨b, c, rfl, hb, Pattern.matches_asterisk c⟩
  | endsWith =>
    simp only [Predicate.pattern, String.toList_append, hstar, Pattern.matches_append, Finds]
    constructor
    · rintro ⟨a, b, rfl, -, hb⟩
      exact ⟨b, hb, a, rfl⟩
    · rintro ⟨b, hb, a, rfl⟩
      exact ⟨a, b, rfl, Pattern.matches_asterisk a, hb⟩
  | _ => exact hanywhere

/-- The pattern finds all that the method asks for. -/
theorem matches_of_finds {text : String} (h : method.Finds text.toList s) :
    Pattern.Matches (Predicate.pattern method text).toList s :=
  (matches_pattern text).2 ⟨_, Pattern.matches_self _, h⟩

/-- It finds nothing else exactly if there is no asterisk in the text. -/
theorem exact_iff (method : CallName) (text : String) :
    (∀ s, Pattern.Matches (Predicate.pattern method text).toList s ↔ method.Finds text.toList s) ↔
      '*' ∉ text.toList := by
  constructor
  · -- without its asterisks the text is found, but it is too short to hold the text itself
    intro h hstar
    have hfound := (matches_pattern text).2
      ⟨_, Pattern.matches_filter text.toList, finds_self method _⟩
    have hle := ((h _).1 hfound).length_le
    have hlt := Pattern.length_filter_lt hstar
    omega
  · intro hstar s
    rw [matches_pattern]
    constructor
    · rintro ⟨b, hb, hfinds⟩
      rwa [(Pattern.matches_plain hstar).1 hb] at hfinds
    · intro h
      exact ⟨_, Pattern.matches_self _, h⟩

end CallName

namespace Predicate

/-- A text method on a column becomes a pattern that finds every text that the method asks for. It
finds no others exactly if there is no asterisk in the text that is looked for. -/
theorem conditionsOf_textMethod (m : Entity) (method : CallName)
    (hmethod : method ∈ [CallName.contains, .startsWith, .endsWith]) (e arg : Expr)
    (p column t : String) (he : e.stripped = .column p) (hcolumn : m.column? p = some column)
    (harg : arg.stripped = .const (.text t)) :
    ∃ pattern : String, conditionsOf m (.call method (some e) [arg]) =
        .ok ⟨[⟨column, .like, false, .literal (.text pattern)⟩], []⟩ ∧
      (∀ s : String, method.Finds t.toList s.toList → Pattern.Matches pattern.toList s.toList) ∧
      ((∀ s : String, Pattern.Matches pattern.toList s.toList ↔ method.Finds t.toList s.toList) ↔
        '*' ∉ t.toList) := by
  have hcolumnOf : m.columnOf p = .ok column := by rw [Entity.columnOf, hcolumn]
  have hsearch : textSearch m method p arg =
      .ok ⟨column, .like, false, .literal (.text (pattern method t))⟩ :=
    textSearch_eq_ok.2 ⟨column, _, hcolumnOf, gives_patternForm.2 (.inl ⟨t, harg, rfl⟩), rfl⟩
  have hcall := ofCall_eq_ok.2 (.text hmethod he hsearch)
  refine ⟨pattern method t, ?_, fun s => CallName.matches_of_finds, ?_⟩
  · rw [conditionsOf, filterOf, hcall]
    · rfl
    all_goals simp
  · rw [← CallName.exact_iff method t]
    constructor
    · intro h s
      simpa using h (String.ofList s)
    · intro h s
      exact h s.toList

/-- Guests whose names begin with some characters that mean nothing to a pattern. -/
theorem conditionsOf_initials : '*' ∉ "J.%_\\".toList ∧ ∃ pattern : String,
    conditionsOf guest (.call .startsWith (some (.convert (.column "Name")))
        [.convert (.const (.text "J.%_\\"))]) =
      .ok ⟨[⟨"name", .like, false, .literal (.text pattern)⟩], []⟩ ∧
    ∀ s : String, Pattern.Matches pattern.toList s.toList ↔ "J.%_\\".toList <+: s.toList := by
  have hplain : '*' ∉ "J.%_\\".toList := by decide
  obtain ⟨pattern, hconditions, -, hexact⟩ := conditionsOf_textMethod guest .startsWith (by decide)
    (.convert (.column "Name")) (.convert (.const (.text "J.%_\\"))) "Name" "name" "J.%_\\" rfl
    (by decide) rfl
  exact ⟨hplain, pattern, hconditions, hexact.2 hplain⟩

/-- An asterisk that is looked for finds names without one. -/
theorem matches_withoutAsterisk :
    conditionsOf guest (.call .contains (some (.column "Name")) [.const (.text "5*")]) =
        .ok ⟨[⟨"name", .like, false, .literal (.text "*5**")⟩], []⟩ ∧
      Pattern.Matches "*5**".toList "Suite 512".toList ∧
      ¬ CallName.contains.Finds "5*".toList "Suite 512".toList := by
  refine ⟨?_, Pattern.matchesPattern_iff.1 (by decide), ?_⟩
  · cbv
  · change ¬ "5*".toList <:+: "Suite 512".toList
    decide

end Predicate

end RemoteTable
