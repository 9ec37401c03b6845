import RemoteTable.Query.Clauses

/-!
Texts with parts in them. An item, in quotes or not, is passed over without being divided, and so is
a list in parentheses; so joined items are divided into the items again, and each item is read as
the text that it was made of.
-/

namespace RemoteTable.Clauses

open Value

variable {nested : Bool} {p q t : Place} {s s' : List Char} {c : Char} {d : Nat}

/-- A text is read from one place to another without being divided. -/
def Passes (nested : Bool) (p q : Place) (s : List Char) : Prop :=
  ∀ r, divide nested p (s ++ r) = (divide nested q r).modifyHead (s ++ ·)

theorem passes_nil : Passes nested p p [] := by
  intro r
  cases h : divide nested p r <;> simp [h]

theorem Passes.append (h : Passes nested p q s) (h' : Passes nested q t s') :
    Passes nested p t (s ++ s') := by
  intro r
  rw [List.append_assoc, h, h', List.modifyHead_modifyHead]
  congr 1
  funext x
  simp

theorem passes_singleton (h : ¬ (p = .top ∧ c = ',')) :
    Passes nested p (p.next nested c) [c] := by
  intro r
  rw [List.singleton_append, divide, if_neg h]
  rfl

theorem Passes.cons (hc : ¬ (p = .top ∧ c = ',')) (h : Passes nested (p.next nested c) q s) :
    Passes nested p q (c :: s) :=
  (passes_singleton hc).append h

/-- Parts that are passed over are what their joined text is divided into. -/
theorem divide_joinItems {l : List (List Char)} (hl : l ≠ [])
    (h : ∀ s ∈ l, Passes nested .top .top s) : divide nested .top (joinItems l) = l := by
  induction l with
  | nil => exact absurd rfl hl
  | cons s l ih =>
    have hs := h s List.mem_cons_self
    cases l with
    | nil =>
      have hnil := hs []
      rw [List.append_nil] at hnil
      rw [joinItems, hnil]
      simp [divide]
    | cons s' l =>
      have hrest : divide nested .top (joinItems (s' :: l)) = s' :: l :=
        ih (List.cons_ne_nil _ _) fun s hs => h s (List.mem_cons_of_mem _ hs)
      rw [joinItems, hs, divide, if_pos ⟨rfl, rfl⟩, hrest]
      · simp
      · simp

theorem joinItems_eq_intercalate (l : List (List Char)) : joinItems l = [','].intercalate l := by
  induction l with
  | nil => rfl
  | cons s l ih =>
    cases l with
    | nil => simp [joinItems]
    | cons s' l => simp [joinItems, ih, List.intercalate_cons_cons]

theorem not_isDelimiter {x : Char} (hx : isDelimiter x = true) (hc : isDelimiter c = false) :
    c ≠ x := by
  rintro rfl
  simp [hx] at hc

theorem next_outside (hc : isDelimiter c = false) :
    Place.next nested ⟨.outside, d⟩ c = ⟨.outside, d⟩ := by
  have hquote : c ≠ '"' := not_isDelimiter (by decide) hc
  have hopen : c ≠ '(' := not_isDelimiter (by decide) hc
  have hclose : c ≠ ')' := not_isDelimiter (by decide) hc
  simp [Place.next, hquote, hopen, hclose]

/-- A text without delimiters is passed over. -/
theorem passes_plain (hs : ∀ c ∈ s, isDelimiter c = false) :
    Passes nested ⟨.outside, d⟩ ⟨.outside, d⟩ s := by
  induction s with
  | nil => exact passes_nil
  | cons c s ih =>
    have hc := hs c List.mem_cons_self
    have hcomma : c ≠ ',' := not_isDelimiter (by decide) hc
    refine .cons (fun h => hcomma h.2) ?_
    rw [next_outside hc]
    exact ih fun c hc => hs c (List.mem_cons_of_mem _ hc)

theorem passes_escapeItemChar (c : Char) :
    Passes nested ⟨.inside, d⟩ ⟨.inside, d⟩ (escapeItemChar c) := by
  unfold escapeItemChar
  split
  next h =>
    refine .cons (by simp [Place.top]) (.cons (by simp [Place.next, Place.top]) ?_)
    simpa [Place.next] using passes_nil
  next h =>
    refine .cons (by simp [Place.top]) ?_
    simp only [not_or] at h
    simpa [Place.next, h] using passes_nil

theorem passes_escaped (s : List Char) :
    Passes nested ⟨.inside, d⟩ ⟨.inside, d⟩ (s.flatMap escapeItemChar) := by
  induction s with
  | nil => exact passes_nil
  | cons c s ih => exact (passes_escapeItemChar c).append ih

theorem plain_of_not_ambiguous (h : isAmbiguous s = false) : ∀ c ∈ s, isDelimiter c = false := by
  simp only [isAmbiguous, Bool.or_eq_false_iff, List.any_eq_false] at h
  exact fun c hc => by simpa using h.2 c hc

/-- An item is passed over, whatever it holds. -/
theorem passes_quoteItem (s : List Char) :
    Passes nested ⟨.outside, d⟩ ⟨.outside, d⟩ (quoteItem s) := by
  unfold quoteItem
  split
  next =>
    refine .append (q := ⟨.inside, d⟩) (.cons (by simp) ?_) (.cons (by simp [Place.top]) ?_)
    · simpa [Place.next] using passes_escaped s
    · simpa [Place.next] using passes_nil
  next h => exact passes_plain (plain_of_not_ambiguous (by simpa using h))

theorem itemsChars_eq_map (l : List Value) :
    itemsChars l = l.map fun v => quoteItem v.chars := by
  induction l with
  | nil => rfl
  | cons v l ih => rw [itemsChars, ih, List.map_cons]

/-- Inside of parentheses joined items are passed over. -/
theorem passes_joinItems {l : List (List Char)}
    (h : ∀ s ∈ l, Passes nested ⟨.outside, d + 1⟩ ⟨.outside, d + 1⟩ s) :
    Passes nested ⟨.outside, d + 1⟩ ⟨.outside, d + 1⟩ (joinItems l) := by
  induction l with
  | nil => exact passes_nil
  | cons s l ih =>
    have hs := h s List.mem_cons_self
    cases l with
    | nil => exact hs
    | cons s' l =>
      rw [joinItems]
      · refine hs.append (.cons (by simp [Place.top]) ?_)
        simpa [Place.next] using ih fun s hs => h s (List.mem_cons_of_mem _ hs)
      · simp

/-- A list in parentheses is passed over where parentheses count. -/
theorem passes_list (l : List (List Char)) :
    Passes true .top .top ('(' :: joinItems (l.map quoteItem) ++ [')']) := by
  have hitems : ∀ s ∈ l.map quoteItem, Passes true ⟨.outside, 0 + 1⟩ ⟨.outside, 0 + 1⟩ s := by
    intro s hs
    obtain ⟨s, _, rfl⟩ := List.mem_map.1 hs
    exact passes_quoteItem s
  refine .append (q := ⟨.outside, 0 + 1⟩) (.cons (by simp) ?_) (.cons (by simp) ?_)
  · exact passes_joinItems hitems
  · simpa [Place.next, Place.top] using passes_nil

theorem toQuote?_cons (hc : c ≠ '\\') : toQuote? (c :: s) =
    if c = '"' then some ([], s) else (toQuote? s).map fun (a, rest) => (c :: a, rest) := by
  rw [toQuote?.eq_def]
  split
  next => simp_all
  next => simp_all
  next => simp_all
  next h => cases h; rfl

theorem toQuote?_escaped (s r : List Char) :
    toQuote? (s.flatMap escapeItemChar ++ '"' :: r) = some (s, r) := by
  induction s with
  | nil => simp [toQuote?_cons]
  | cons c s ih =>
    rw [List.flatMap_cons, List.append_assoc, escapeItemChar]
    split
    next h => simp [toQuote?, ih]
    next h =>
      simp only [not_or] at h
      simp [toQuote?_cons, h, ih]

/-- An item stands for the text that it was made of. -/
theorem itemText?_quoteItem (s : List Char) : itemText? (quoteItem s) = some s := by
  unfold quoteItem
  split
  next =>
    rw [List.cons_append, itemText?, toQuote?_escaped]
  next h =>
    have hplain := plain_of_not_ambiguous (by simpa using h)
    cases s with
    | nil => simp [isAmbiguous] at h
    | cons c s =>
      have hquote : c ≠ '"' := not_isDelimiter (by decide) (hplain c List.mem_cons_self)
      rw [itemText?]
      simpa using hquote

theorem quoteItem_ne_nil (s : List Char) : quoteItem s ≠ [] := by
  intro h
  have hs := itemText?_quoteItem s
  simp only [h, itemText?, Option.some.injEq] at hs
  simp [← hs, quoteItem, isAmbiguous] at h

theorem inParentheses?_eq (s : List Char) : inParentheses? ('(' :: s ++ [')']) = some s := by
  simp [inParentheses?]

/-- What stands between parentheses are the parts that were put there. -/
theorem parts?_joinItems {l : List (List Char)} (hne : ∀ s ∈ l, s ≠ [])
    (h : ∀ s ∈ l, Passes nested .top .top s) :
    parts? nested ('(' :: joinItems l ++ [')']) = some l := by
  rw [parts?, inParentheses?_eq, Option.map_some]
  cases l with
  | nil => rfl
  | cons s l =>
    have hs := hne s List.mem_cons_self
    have hjoin : joinItems (s :: l) ≠ [] := by cases l <;> simp [joinItems, hs]
    rw [if_neg hjoin, divide_joinItems (List.cons_ne_nil s l) h]

/-- Items in parentheses are read as the texts that they were made of. -/
theorem items_readBack (l : List (List Char)) :
    items? ('(' :: joinItems (l.map quoteItem) ++ [')']) = some l := by
  have hread : (l.map quoteItem).mapM itemText? = some l := by
    induction l with
    | nil => rfl
    | cons s l ih => simp [itemText?_quoteItem, ih]
  rw [items?, parts?_joinItems, Option.bind_some, hread]
  · simp [quoteItem_ne_nil]
  · intro s hs
    obtain ⟨s, _, rfl⟩ := List.mem_map.1 hs
    exact passes_quoteItem s

theorem atDot?_append {r : List Char} (h : '.' ∉ s) : atDot? (s ++ '.' :: r) = some (s, r) := by
  induction s with
  | nil => simp [atDot?]
  | cons c s ih =>
    simp only [List.mem_cons, not_or] at h
    simp [atDot?, Ne.symm h.1, ih h.2]

end RemoteTable.Clauses
