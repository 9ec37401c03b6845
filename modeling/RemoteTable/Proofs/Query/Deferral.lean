import RemoteTable.Proofs.Query.Translation

/-!
Values that are supplied early. A predicate with parameters, and the same predicate with the values
of the parameters in their places, have filters that differ in form: a null that is known becomes a
test for null at once, one that is named only when the request is built, with whatever negations
there are in between. In the request they say the same.
-/

namespace RemoteTable

namespace Expr

mutual

/-- The expression with the values of its parameters in their places. -/
def supplied (bag : Bag) : Expr → Expr
  | .column p => .column p
  | .member e name => .member (supplied bag e) name
  | .const v => .const v
  | .param name =>
    match bag.find? name with
    | some v => .const v
    | none => .param name
  | .convert e => .convert (supplied bag e)
  | .compare op l r => .compare op (supplied bag l) (supplied bag r)
  | .and l r => .and (supplied bag l) (supplied bag r)
  | .or l r => .or (supplied bag l) (supplied bag r)
  | .arith op l r => .arith op (supplied bag l) (supplied bag r)
  | .not e => .not (supplied bag e)
  | .call method target args => .call method (suppliedTarget bag target) (suppliedItems bag args)

def suppliedTarget (bag : Bag) : Option Expr → Option Expr
  | none => none
  | some e => some (supplied bag e)

def suppliedItems (bag : Bag) : List Expr → List Expr
  | [] => []
  | e :: r => supplied bag e :: suppliedItems bag r

end

mutual

/-- The expression with everything that it is made of. -/
def parts : Expr → List Expr
  | .member e name => .member e name :: parts e
  | .convert e => .convert e :: parts e
  | .compare op l r => .compare op l r :: (parts l ++ parts r)
  | .and l r => .and l r :: (parts l ++ parts r)
  | .or l r => .or l r :: (parts l ++ parts r)
  | .arith op l r => .arith op l r :: (parts l ++ parts r)
  | .not e => .not e :: parts e
  | .call method target args =>
    .call method target args :: (partsOfTarget target ++ partsOfItems args)
  | e => [e]

def partsOfTarget : Option Expr → List Expr
  | none => []
  | some e => parts e

def partsOfItems : List Expr → List Expr
  | [] => []
  | e :: r => parts e ++ partsOfItems r

end

/-- All parameters have values, and a text that is looked for in a column is none of them: one that
is named for later brings its own asterisks. -/
structure Suppliable (bag : Bag) (e : Expr) : Prop where
  bound : ∀ name, .param name ∈ e.parts → ∃ v, bag.find? name = some v
  searched : ∀ method target arg name, .call method (some target) [arg] ∈ e.parts →
    method ∈ [CallName.contains, .startsWith, .endsWith] → target.isColumn = true →
    arg.stripped ≠ .param name

variable {bag : Bag} {e : Expr}

@[simp] theorem mem_parts_self (e : Expr) : e ∈ e.parts := by
  cases e <;> simp [parts]

/-- A list that holds the parts of everything in it. -/
def Closed (l : List Expr) : Prop := ∀ part ∈ l, part.parts ⊆ l

theorem closed_nil : Closed [] := by
  intro part hpart
  simp at hpart

theorem Closed.append {l r : List Expr} (hl : Closed l) (hr : Closed r) : Closed (l ++ r) := by
  intro part hpart
  rcases List.mem_append.1 hpart with hpart | hpart
  · exact List.subset_append_of_subset_left _ (hl part hpart)
  · exact List.subset_append_of_subset_right _ (hr part hpart)

theorem Closed.whole {l : List Expr} (he : e.parts = e :: l) (hl : Closed l) :
    Closed e.parts := by
  intro part hpart
  rw [he] at hpart
  rcases List.mem_cons.1 hpart with rfl | hpart
  · exact List.Subset.refl _
  · rw [he]
    exact List.subset_cons_of_subset _ (hl part hpart)

mutual

/-- The parts of a part are parts of the whole. -/
theorem closed_parts (e : Expr) : Closed e.parts := by
  cases e with
  | column p => exact .whole rfl closed_nil
  | member e name => exact .whole rfl (closed_parts e)
  | const v => exact .whole rfl closed_nil
  | param name => exact .whole rfl closed_nil
  | convert e => exact .whole rfl (closed_parts e)
  | compare op l r => exact .whole rfl ((closed_parts l).append (closed_parts r))
  | and l r => exact .whole rfl ((closed_parts l).append (closed_parts r))
  | or l r => exact .whole rfl ((closed_parts l).append (closed_parts r))
  | arith op l r => exact .whole rfl ((closed_parts l).append (closed_parts r))
  | not e => exact .whole rfl (closed_parts e)
  | call method target args =>
    exact .whole rfl ((closed_partsOfTarget target).append (closed_partsOfItems args))

theorem closed_partsOfTarget (target : Option Expr) : Closed (partsOfTarget target) := by
  cases target with
  | none => exact closed_nil
  | some e => exact closed_parts e

theorem closed_partsOfItems (args : List Expr) : Closed (partsOfItems args) := by
  cases args with
  | nil => exact closed_nil
  | cons e args => exact (closed_parts e).append (closed_partsOfItems args)

end

theorem Suppliable.of_part {part : Expr} (h : e.Suppliable bag) (hpart : part ∈ e.parts) :
    part.Suppliable bag := by
  have hparts := closed_parts e part hpart
  constructor
  · intro name hname
    exact h.bound name (hparts hname)
  · intro method target arg name hcall
    exact h.searched method target arg name (hparts hcall)

theorem stripped_mem_parts (e : Expr) : e.stripped ∈ e.parts := by
  fun_induction stripped e with
  | case1 e ih =>
    rw [parts]
    exact List.mem_cons_of_mem _ ih
  | case2 => exact mem_parts_self _

theorem mem_partsOfItems {args : List Expr} {arg : Expr} (h : arg ∈ args) :
    arg ∈ partsOfItems args := by
  induction args with
  | nil => simp at h
  | cons e args ih =>
    rcases List.mem_cons.1 h with rfl | h
    · simp [partsOfItems]
    · simp [partsOfItems, ih h]

theorem suppliedTarget_eq (bag : Bag) (target : Option Expr) :
    suppliedTarget bag target = target.map (supplied bag) := by
  cases target <;> rfl

theorem suppliedItems_eq (bag : Bag) (args : List Expr) :
    suppliedItems bag args = args.map (supplied bag) := by
  induction args with
  | nil => rfl
  | cons e args ih => rw [suppliedItems, ih, List.map_cons]

theorem stripped_supplied (bag : Bag) (e : Expr) :
    (e.supplied bag).stripped = e.stripped.supplied bag := by
  fun_induction stripped e with
  | case1 e ih => rw [supplied, stripped, ih]
  | case2 e he =>
    cases e with
    | convert e => exact absurd rfl (he e)
    | param name =>
      rw [supplied]
      cases bag.find? name <;> rfl
    | _ => simp only [supplied, stripped]

/-- Only a column is a column with its values supplied. -/
theorem supplied_eq_column {p : String} : e.supplied bag = .column p ↔ e = .column p := by
  cases e with
  | param name =>
    rw [supplied]
    cases bag.find? name <;> simp
  | _ => simp [supplied]

/-- A constant was one before, or is the value of a parameter. -/
theorem supplied_eq_const {v : Value} (h : e.supplied bag = .const v) :
    e = .const v ∨ ∃ name, e = .param name ∧ bag.find? name = some v := by
  cases e with
  | const w => exact .inl (by simpa [supplied] using h)
  | param name =>
    rw [supplied] at h
    cases hv : bag.find? name with
    | none => simp [hv] at h
    | some w => exact .inr ⟨name, rfl, by simpa [hv] using h⟩
  | _ => simp [supplied] at h

/-- No parameter is left where all have values. -/
theorem Suppliable.supplied_ne_param (h : e.Suppliable bag) (name : String) :
    e.supplied bag ≠ .param name := by
  cases e with
  | param name' =>
    obtain ⟨v, hv⟩ := h.bound name' (mem_parts_self _)
    simp [supplied, hv]
  | _ => simp [supplied]

end Expr

/-- What becomes of an operand when the values of parameters are supplied early. -/
inductive Operand.Supplied (bag : Bag) : Operand → Operand → Prop
  | known (v : Value) : Supplied bag (.literal v) (.literal v)
  | named {name : String} {v : Value} (value : bag.find? name = some v) :
      Supplied bag (.param name) (.literal v)

namespace Filter

/-- What becomes of a filter when the values of parameters are supplied early. -/
inductive Supplied (bag : Bag) : Filter → Filter → Prop
  | known {f : Filter} {v : Value} (operand : f.operand = .literal v) : Supplied bag f f
  | named {column : String} {op : ColumnTest} {negated : Bool} {name : String} {v : Value}
      (value : bag.find? name = some v) (test : op ≠ .is) :
      Supplied bag ⟨column, op, negated, .param name⟩ ⟨column, op, negated, .literal v⟩
  | equalsNull {column : String} {negated : Bool} {name : String}
      (value : bag.find? name = some .null) :
      Supplied bag ⟨column, .compare .eq, negated, .param name⟩
        ⟨column, .is, negated, .literal .null⟩
  | differsNull {column : String} {negated : Bool} {name : String}
      (value : bag.find? name = some .null) :
      Supplied bag ⟨column, .compare .ne, negated, .param name⟩
        ⟨column, .is, !negated, .literal .null⟩

variable {bag : Bag} {f g : Filter}

theorem Supplied.of_operand {column : String} {op : ColumnTest} {o o' : Operand} (hop : op ≠ .is)
    (h : o.Supplied bag o') : Supplied bag ⟨column, op, false, o⟩ ⟨column, op, false, o'⟩ := by
  cases h with
  | known v => exact .known rfl
  | named value => exact .named value hop

theorem opposite_of_param {name : String} (h : f.operand = .param name) :
    Predicate.opposite f = { f with negated := !f.negated } := by
  simp [Predicate.opposite, h]

theorem opposite_of_op (h : f.op ≠ .is) :
    Predicate.opposite f = { f with negated := !f.negated } := by
  unfold Predicate.opposite
  split
  next hop _ => exact absurd hop h
  next => rfl

/-- A negation keeps the two filters together, in whatever form they are. -/
theorem Supplied.opposite (h : Supplied bag f g) :
    Supplied bag (Predicate.opposite f) (Predicate.opposite g) := by
  cases h with
  | known operand =>
    unfold Predicate.opposite
    split
    · exact .known rfl
    · exact .known operand
  | named value test =>
    rw [opposite_of_param rfl, opposite_of_op test]
    exact .named value test
  | equalsNull value => exact .equalsNull value
  | differsNull value => exact .differsNull value

theorem Supplied.literal (h : Supplied bag f g) : ∃ v, g.operand = .literal v := by
  cases h with
  | known operand => exact ⟨_, operand⟩
  | _ => exact ⟨_, rfl⟩

theorem Supplied.column_eq (h : Supplied bag f g) : f.column = g.column := by
  cases h <;> rfl

/-- A filter has the segment that it has when its value is supplied early. -/
theorem Supplied.segment_eq (h : Supplied bag f g) (grouped : Bool) :
    f.segment bag grouped = g.segment .empty grouped := by
  cases h with
  | known operand => simp only [segment, operand, Operand.valueIn]
  | named value test =>
    simp only [segment, Operand.valueIn, Bag.valueOf, value]
    rfl
  | equalsNull value =>
    simp only [segment, Operand.valueIn, Bag.valueOf, value]
    rfl
  | differsNull value =>
    simp only [segment, Operand.valueIn, Bag.valueOf, value]
    rfl

/-- Two filters are written, and alike, though only one of them still needs the values. -/
def WrittenAs (bag : Bag) (f g : Filter) : Prop :=
  f.column = g.column ∧
    ∀ grouped, ∃ s, f.segment bag grouped = .ok s ∧ g.segment .empty grouped = .ok s

theorem Supplied.writtenAs (h : Supplied bag f g)
    (hg : ∀ v, g.operand = .literal v → g.Takes v) : f.WrittenAs bag g := by
  refine ⟨h.column_eq, fun grouped => ?_⟩
  obtain ⟨v, hv⟩ := h.literal
  have hvalue : g.operand.valueIn .empty = .ok v := by
    rw [hv]
    rfl
  obtain ⟨s, hs⟩ := exists_segment hvalue (hg v hv) grouped
  exact ⟨s, (h.segment_eq grouped).trans hs, hs⟩

theorem WrittenAs.exists_pair (h : f.WrittenAs bag g) :
    ∃ pair, f.pair bag = .ok pair ∧ g.pair .empty = .ok pair := by
  obtain ⟨s, hs, hs'⟩ := h.2 false
  refine ⟨(g.column, s), ?_, ?_⟩
  · rw [pair, hs, h.1]
    rfl
  · rw [pair, hs']
    rfl

theorem WrittenAs.exists_branch (h : f.WrittenAs bag g) :
    ∃ text, f.branch bag = .ok text ∧ g.branch .empty = .ok text := by
  obtain ⟨s, hs, hs'⟩ := h.2 true
  refine ⟨g.column ++ "." ++ s, ?_, ?_⟩
  · rw [branch, hs, h.1]
    rfl
  · rw [branch, hs']
    rfl

theorem exists_groupPair {l l' : List Filter} (h : List.Forall₂ (WrittenAs bag) l l') :
    ∃ pair, groupPair bag l = .ok pair ∧ groupPair .empty l' = .ok pair := by
  obtain ⟨texts, htexts, htexts'⟩ :=
    Except.exists_mapM_of_forall₂ (h.imp fun _ _ => WrittenAs.exists_branch)
  exact ⟨_, Except.map_eq_ok.2 ⟨texts, htexts, rfl⟩, Except.map_eq_ok.2 ⟨texts, htexts', rfl⟩⟩

end Filter

namespace Predicate

open RemoteTable.Expr

variable {bag : Bag} {m : Entity} {e : Expr} {g : Filter}

theorem Gives.exists_supplied {form : Value → Option Value} {o : Operand}
    (hform : ∀ v w, form v = some w → v = w) (he : e.Suppliable bag)
    (h : Gives form (e.supplied bag) o) : ∃ o', Gives form e o' ∧ o'.Supplied bag o := by
  generalize hsupplied : e.supplied bag = e' at h
  cases h with
  | constant known =>
    rename_i v w
    rcases supplied_eq_const hsupplied with rfl | ⟨name, rfl, hvalue⟩
    · exact ⟨.literal w, .constant known, .known w⟩
    · obtain rfl := hform v w known
      exact ⟨.param name, .parameter name, .named hvalue⟩
  | parameter name => exact absurd hsupplied (he.supplied_ne_param name)

theorem eq_of_listForm {v w : Value} (h : listForm v = some w) : v = w := by
  cases v <;> simp [listForm] at h
  exact h

theorem eq_of_patternForm_id {v w : Value} (h : patternForm id v = some w) : v = w := by
  cases v <;> simp [patternForm] at h
  exact h

theorem exists_compareColumn {op : Comparison} {p : String} (he : e.Suppliable bag)
    (h : compareColumn m op p (e.supplied bag) = .ok g) :
    ∃ f, compareColumn m op p e = .ok f ∧ f.Supplied bag g := by
  obtain ⟨c, o, hc, ho, hg⟩ := compareColumn_eq_ok.1 h
  obtain ⟨o', ho', hsupplied⟩ :=
    ho.exists_supplied (fun _ _ h => (isList_of_scalarForm h).1) he
  cases hsupplied with
  | known v =>
    refine ⟨g, compareColumn_eq_ok.2 ⟨c, _, hc, ho', hg⟩, ?_⟩
    cases hg with
    | _ => exact .known rfl
  | named value =>
    rename_i name v
    -- only here the two filters may differ in form
    refine ⟨⟨c, .compare op, false, .param name⟩,
      compareColumn_eq_ok.2 ⟨c, _, hc, ho', .plain rfl⟩, ?_⟩
    cases hg with
    | plain => exact .named value (by simp)
    | equalsNull equals =>
      subst equals
      exact .equalsNull value
    | differsNull differs =>
      subst differs
      exact .differsNull value

theorem exists_ofComparison {op : Comparison} {l r : Expr} (hl : l.Suppliable bag)
    (hr : r.Suppliable bag)
    (h : ofComparison m op (l.supplied bag) (r.supplied bag) = .ok g) :
    ∃ f, ofComparison m op l r = .ok f ∧ f.Supplied bag g := by
  rw [ofComparison_eq_ok, stripped_supplied, stripped_supplied] at h
  rcases h with ⟨p, hp, h⟩ | ⟨p, hp, h⟩
  · obtain ⟨f, hf, hsupplied⟩ := exists_compareColumn (hr.of_part (stripped_mem_parts r)) h
    exact ⟨f, ofComparison_eq_ok.2 (.inl ⟨p, supplied_eq_column.1 hp, hf⟩), hsupplied⟩
  · obtain ⟨f, hf, hsupplied⟩ := exists_compareColumn (hl.of_part (stripped_mem_parts l)) h
    exact ⟨f, ofComparison_eq_ok.2 (.inr ⟨p, supplied_eq_column.1 hp, hf⟩), hsupplied⟩

/-- A text that stands in the predicate is looked for as it is. -/
theorem exists_textSearch {method : CallName} {p : String}
    (hnamed : ∀ name, e.stripped ≠ .param name)
    (h : textSearch m method p (e.supplied bag) = .ok g) :
    ∃ f, textSearch m method p e = .ok f ∧ f.Supplied bag g := by
  obtain ⟨c, o, hc, ho, rfl⟩ := textSearch_eq_ok.1 h
  rw [stripped_supplied, gives_patternForm] at ho
  rcases ho with ⟨s, hs, rfl⟩ | ⟨name, hname, rfl⟩
  · rcases supplied_eq_const hs with hs | ⟨name, hname, -⟩
    · exact ⟨_, textSearch_eq_ok.2 ⟨c, _, hc, gives_patternForm.2 (.inl ⟨s, hs, rfl⟩), rfl⟩,
        .known rfl⟩
    · exact absurd hname (hnamed name)
  · generalize e.stripped = e at hname hnamed
    cases e with
    | param name' => exact absurd rfl (hnamed name')
    | _ => simp [supplied] at hname

theorem exists_listSearch {list item : Expr} (hlist : list.Suppliable bag)
    (h : listSearch m (list.supplied bag) (item.supplied bag) = .ok g) :
    ∃ f, listSearch m list item = .ok f ∧ f.Supplied bag g := by
  obtain ⟨p, c, o, hp, hc, ho, rfl⟩ := listSearch_eq_ok.1 h
  rw [stripped_supplied] at hp ho
  obtain ⟨o', ho', hsupplied⟩ :=
    ho.exists_supplied (fun _ _ => eq_of_listForm) (hlist.of_part (stripped_mem_parts list))
  exact ⟨_, listSearch_eq_ok.2 ⟨p, c, o', supplied_eq_column.1 hp, hc, ho', rfl⟩,
    .of_operand (by simp) hsupplied⟩

theorem exists_patternMatch {method : CallName} {op : ColumnTest} {subject pattern : Expr}
    (hop : op ≠ .is) (hpattern : pattern.Suppliable bag)
    (h : patternMatch m method op (subject.supplied bag) (pattern.supplied bag) = .ok g) :
    ∃ f, patternMatch m method op subject pattern = .ok f ∧ f.Supplied bag g := by
  obtain ⟨p, c, o, hp, hc, ho, rfl⟩ := patternMatch_eq_ok.1 h
  rw [stripped_supplied] at hp ho
  obtain ⟨o', ho', hsupplied⟩ :=
    ho.exists_supplied (fun _ _ => eq_of_patternForm_id)
      (hpattern.of_part (stripped_mem_parts pattern))
  exact ⟨_, patternMatch_eq_ok.2 ⟨p, c, o', supplied_eq_column.1 hp, hc, ho', rfl⟩,
    .of_operand hop hsupplied⟩

theorem exists_ofCall {method : CallName} {target : Option Expr} {args : List Expr}
    (he : (Expr.call method target args).Suppliable bag)
    (h : ofCall m method (target.map (supplied bag)) (args.map (supplied bag)) = .ok g) :
    ∃ f, ofCall m method target args = .ok f ∧ f.Supplied bag g := by
  have harg : ∀ arg ∈ args, arg.Suppliable bag := by
    intro arg harg
    exact he.of_part (by simp [parts, mem_partsOfItems harg])
  simp only [ofCall_eq_ok] at h ⊢
  generalize htarget : target.map (supplied bag) = target' at h
  generalize hargs : args.map (supplied bag) = args' at h
  cases h with
  | text method_mem column search =>
    obtain ⟨e, rfl, rfl⟩ := Option.map_eq_some_iff.1 htarget
    obtain ⟨arg, rfl, rfl⟩ := List.map_eq_singleton_iff.1 hargs
    rw [stripped_supplied, supplied_eq_column] at column
    have hnamed : ∀ name, arg.stripped ≠ .param name := by
      intro name
      apply he.searched method e arg name (mem_parts_self _) method_mem
      exact isColumn_eq_true.2 ⟨_, column⟩
    obtain ⟨f, hf, hsupplied⟩ := exists_textSearch hnamed search
    exact ⟨f, .text method_mem column hf, hsupplied⟩
  | list column search =>
    obtain ⟨e, rfl, rfl⟩ := Option.map_eq_some_iff.1 htarget
    obtain ⟨item, rfl, rfl⟩ := List.map_eq_singleton_iff.1 hargs
    obtain ⟨f, hf, hsupplied⟩ :=
      exists_listSearch (he.of_part (by simp [parts, partsOfTarget])) search
    refine ⟨f, .list ?_ hf, hsupplied⟩
    by_contra hcolumn
    obtain ⟨p, hp⟩ := isColumn_eq_true.1 (by simpa using hcolumn)
    have : (e.supplied bag).isColumn = true :=
      isColumn_eq_true.2 ⟨p, by rw [stripped_supplied, supplied_eq_column.2 hp]⟩
    simp [this] at column
  | member search =>
    obtain rfl := Option.map_eq_none_iff.1 htarget
    obtain ⟨list, rest, rfl, rfl, hrest⟩ := List.map_eq_cons_iff.1 hargs
    obtain ⟨item, rfl, rfl⟩ := List.map_eq_singleton_iff.1 hrest
    obtain ⟨f, hf, hsupplied⟩ := exists_listSearch (harg list (by simp)) search
    exact ⟨f, .member hf, hsupplied⟩
  | like search =>
    obtain rfl := Option.map_eq_none_iff.1 htarget
    obtain ⟨subject, rest, rfl, rfl, hrest⟩ := List.map_eq_cons_iff.1 hargs
    obtain ⟨pattern, rfl, rfl⟩ := List.map_eq_singleton_iff.1 hrest
    obtain ⟨f, hf, hsupplied⟩ :=
      exists_patternMatch (by simp) (harg pattern (by simp)) search
    exact ⟨f, .like hf, hsupplied⟩
  | ilike search =>
    obtain rfl := Option.map_eq_none_iff.1 htarget
    obtain ⟨subject, rest, rfl, rfl, hrest⟩ := List.map_eq_cons_iff.1 hargs
    obtain ⟨pattern, rfl, rfl⟩ := List.map_eq_singleton_iff.1 hrest
    obtain ⟨f, hf, hsupplied⟩ :=
      exists_patternMatch (by simp) (harg pattern (by simp)) search
    exact ⟨f, .ilike hf, hsupplied⟩

/-- If a predicate with its values supplied is one filter, so it is without them. -/
theorem exists_filterOf (he : e.Suppliable bag) (h : filterOf m (e.supplied bag) = .ok g) :
    ∃ f, filterOf m e = .ok f ∧ f.Supplied bag g := by
  fun_induction filterOf m e generalizing g with
  | case1 e ih =>
    rw [supplied] at h
    exact ih (he.of_part (by simp [parts])) h
  | case2 e ih =>
    rw [supplied] at h
    obtain ⟨g', hg', rfl⟩ := Except.map_eq_ok.1 h
    obtain ⟨f, hf, hsupplied⟩ := ih (he.of_part (by simp [parts])) (Except.mapError_eq_ok.1 hg')
    refine ⟨opposite f, ?_, hsupplied.opposite⟩
    exact Except.map_eq_ok.2 ⟨f, Except.mapError_eq_ok.2 hf, rfl⟩
  | case3 op l r =>
    rw [supplied] at h
    exact exists_ofComparison (he.of_part (by simp [parts])) (he.of_part (by simp [parts])) h
  | case7 method target args =>
    rw [supplied, suppliedTarget_eq, suppliedItems_eq] at h
    exact exists_ofCall he h
  | case8 p =>
    rw [supplied] at h
    obtain ⟨field, -, -, hg⟩ := booleanColumn_eq_ok.1 h
    exact ⟨g, h, .known (congrArg Filter.operand hg)⟩
  | case11 name =>
    obtain ⟨v, hv⟩ := he.bound name (mem_parts_self _)
    simp [supplied, hv, filterOf] at h
  | _ => simp [supplied, filterOf] at h

theorem exists_writtenAs (he : e.Suppliable bag) (h : filterOf m (e.supplied bag) = .ok g) :
    ∃ f, filterOf m e = .ok f ∧ f.WrittenAs bag g := by
  obtain ⟨f, hf, hsupplied⟩ := exists_filterOf he h
  exact ⟨f, hf, hsupplied.writtenAs (formed_filterOf h).known⟩

/-- If a predicate with its values supplied is a group, so it is without them. -/
theorem exists_branches {l' : List Filter} (he : e.Suppliable bag)
    (h : branches m (e.supplied bag) = .ok l') :
    ∃ l, branches m e = .ok l ∧ List.Forall₂ (Filter.WrittenAs bag) l l' := by
  fun_induction branches m e generalizing l' with
  | case1 e ih =>
    rw [supplied] at h
    exact ih (he.of_part (by simp [parts])) h
  | case2 l r ihl ihr =>
    rw [supplied] at h
    obtain ⟨a', ha', h⟩ := Except.bind_eq_ok.1 h
    obtain ⟨b', hb', h⟩ := Except.bind_eq_ok.1 h
    obtain rfl := Except.ok.inj h
    obtain ⟨a, ha, hwrittena⟩ := ihl (he.of_part (by simp [parts])) ha'
    obtain ⟨b, hb, hwrittenb⟩ := ihr (he.of_part (by simp [parts])) hb'
    refine ⟨a ++ b, ?_, List.rel_append hwrittena hwrittenb⟩
    rw [ha, hb]
    rfl
  | case3 e hconvert hor =>
    have hfilter : (filterOf m (e.supplied bag)).map ([·]) = .ok l' := by
      cases e with
      | convert e => exact absurd rfl (hconvert e)
      | or l r => exact absurd rfl (hor l r)
      | param name =>
        obtain ⟨v, hv⟩ := he.bound name (mem_parts_self _)
        simpa only [supplied, hv, branches] using h
      | _ => simpa only [supplied, branches] using h
    obtain ⟨g, hg, rfl⟩ := Except.map_eq_ok.1 hfilter
    obtain ⟨f, hf, hwritten⟩ := exists_writtenAs he hg
    exact ⟨[f], by rw [hf]; rfl, .cons hwritten .nil⟩

/-- If a predicate with its values supplied has conditions, it has them without. -/
theorem exists_conditionsOf {c' : Conditions} (he : e.Suppliable bag)
    (h : conditionsOf m (e.supplied bag) = .ok c') :
    ∃ c, conditionsOf m e = .ok c ∧ List.Forall₂ (Filter.WrittenAs bag) c.filters c'.filters ∧
      List.Forall₂ (List.Forall₂ (Filter.WrittenAs bag)) c.groups c'.groups := by
  fun_induction conditionsOf m e generalizing c' with
  | case1 e ih =>
    rw [supplied] at h
    exact ih (he.of_part (by simp [parts])) h
  | case2 l r ihl ihr =>
    rw [supplied] at h
    obtain ⟨a', ha', h⟩ := Except.bind_eq_ok.1 h
    obtain ⟨b', hb', h⟩ := Except.bind_eq_ok.1 h
    obtain rfl := Except.ok.inj h
    obtain ⟨a, ha, hfiltersa, hgroupsa⟩ := ihl (he.of_part (by simp [parts])) ha'
    obtain ⟨b, hb, hfiltersb, hgroupsb⟩ := ihr (he.of_part (by simp [parts])) hb'
    refine ⟨a ++ b, ?_, List.rel_append hfiltersa hfiltersb, List.rel_append hgroupsa hgroupsb⟩
    rw [ha, hb]
    rfl
  | case3 l r =>
    rw [supplied] at h
    obtain ⟨g', hg', rfl⟩ := Except.map_eq_ok.1 h
    obtain ⟨g, hg, hwritten⟩ := exists_branches he (by rw [supplied]; exact hg')
    exact ⟨⟨[], [g]⟩, by rw [hg]; rfl, .nil, .cons hwritten .nil⟩
  | case4 e hconvert hand hor =>
    have hfilter : (filterOf m (e.supplied bag)).map (fun f => ⟨[f], []⟩) = .ok c' := by
      cases e with
      | convert e => exact absurd rfl (hconvert e)
      | and l r => exact absurd rfl (hand l r)
      | or l r => exact absurd rfl (hor l r)
      | param name =>
        obtain ⟨v, hv⟩ := he.bound name (mem_parts_self _)
        simpa only [supplied, hv, conditionsOf] using h
      | _ => simpa only [supplied, conditionsOf] using h
    obtain ⟨g, hg, rfl⟩ := Except.map_eq_ok.1 hfilter
    obtain ⟨f, hf, hwritten⟩ := exists_writtenAs he hg
    exact ⟨⟨[f], []⟩, by rw [hf]; rfl, .cons hwritten .nil, .nil⟩

end Predicate

namespace Pipeline

variable {bag : Bag} {m : Entity} {e : Expr}

/-- The query of a table with some conditions. -/
def filtered (m : Entity) (c : Conditions) : Pipeline :=
  { start m with query := { Query.ofTable m.table with conditions := c } }

theorem extend_start_eq_ok {t : Pipeline} : (start m).extend (.filter e) = .ok t ↔
    ∃ c, Predicate.conditionsOf m e = .ok c ∧ t = .filtered m c := by
  have hextend : (start m).extend (.filter e) =
      (Predicate.conditionsOf m e).map (filtered m) := by
    simp only [extend, start]
    cases Predicate.conditionsOf m e <;> rfl
  rw [hextend, Except.map_eq_ok]
  simp only [eq_comm]

/-- The pairs of such a query are those of its filters and of its groups. -/
theorem queryString_filtered {c : Conditions} {filters groups : List (String × String)}
    (hfilters : c.filters.mapM (Filter.pair bag) = .ok filters)
    (hgroups : c.groups.mapM (Filter.groupPair bag) = .ok groups) :
    (filtered m c).prepare.query.queryString bag = .ok ⟨filters ++ groups⟩ := by
  simp [Query.queryString, prepare, filtered, start, Query.ofTable, PreparedProjection.entity,
    PreparedProjection.whole, Query.selectPairs, Query.orderPairs, RowCount.pair, hfilters, hgroups,
    bind, Except.bind]

/-- Deferring a value does not change the request. Where a predicate with the values of its
parameters in their places is translated, the predicate itself is, and with these values it has the
same query string, and the same request to every endpoint. -/
theorem queryString_supplied (m : Entity) (bag : Bag) (e : Expr) (he : e.Suppliable bag)
    (t' : Pipeline) (h : (start m).extend (.filter (e.supplied bag)) = .ok t') :
    ∃ t q, (start m).extend (.filter e) = .ok t ∧
      t.prepare.query.queryString bag = .ok q ∧ t'.prepare.query.queryString .empty = .ok q ∧
      ∀ endpoint, t.prepare.request endpoint bag = t'.prepare.request endpoint .empty := by
  obtain ⟨c', hc', rfl⟩ := extend_start_eq_ok.1 h
  obtain ⟨c, hc, hfilters, hgroups⟩ := Predicate.exists_conditionsOf he hc'
  obtain ⟨filters, hf, hf'⟩ :=
    Except.exists_mapM_of_forall₂ (hfilters.imp fun _ _ => Filter.WrittenAs.exists_pair)
  obtain ⟨groups, hg, hg'⟩ :=
    Except.exists_mapM_of_forall₂ (hgroups.imp fun _ _ => Filter.exists_groupPair)
  have hq := queryString_filtered (m := m) hf hg
  have hq' := queryString_filtered (m := m) hf' hg'
  refine ⟨_, _, extend_start_eq_ok.2 ⟨c, hc, rfl⟩, hq, hq', fun endpoint => ?_⟩
  rw [PreparedQuery.request, PreparedQuery.request, hq, hq']
  rfl

/-- Guests whose host may be named, of some ages, and the younger ones. -/
def invitation : Expr :=
  .and
    (.or (.not (.compare .ne (.convert (.column "Host")) (.param "host")))
      (.not (.call .contains (some (.param "ages")) [.column "Age"])))
    (.compare .gt (.param "limit") (.convert (.column "Age")))

def invitationValues : Bag :=
  .ofList [("host", .null), ("ages", .list [.int 18, .int 21]), ("limit", .int 40)]

def invited : Conditions :=
  ⟨[⟨"age", .compare .lt, false, .literal (.int 40)⟩],
    [[⟨"host", .is, false, .literal .null⟩,
      ⟨"age", .oneOf, true, .literal (.list [.int 18, .int 21])⟩]]⟩

/-- A null that is supplied late is still tested for, under a negation and in a group. -/
theorem queryString_invitation : invitation.Suppliable invitationValues ∧
    ∃ t' t, (start Predicate.guest).extend (.filter (invitation.supplied invitationValues)) =
        .ok t' ∧ (start Predicate.guest).extend (.filter invitation) = .ok t ∧
      t.prepare.query.queryString invitationValues =
        .ok ⟨[("age", "lt.40"), ("or", "(host.is.null,age.not.in.(18,21))")]⟩ := by
  have he : invitation.Suppliable invitationValues := by
    constructor
    · intro name hname
      simp [invitation, Expr.parts, Expr.partsOfTarget, Expr.partsOfItems] at hname
      rcases hname with rfl | rfl | rfl
      · exact ⟨.null, by cbv⟩
      · exact ⟨.list [.int 18, .int 21], by cbv⟩
      · exact ⟨.int 40, by cbv⟩
    · intro method target arg name hcall
      simp [invitation, Expr.parts, Expr.partsOfTarget, Expr.partsOfItems] at hcall
      obtain ⟨-, rfl, -⟩ := hcall
      simp [Expr.isColumn, Expr.stripped]
  have hconditions :
      Predicate.conditionsOf Predicate.guest (invitation.supplied invitationValues) =
        .ok invited := by cbv
  obtain ⟨t, q, ht, hq, hq', -⟩ := queryString_supplied Predicate.guest invitationValues invitation
    he _ (extend_start_eq_ok.2 ⟨_, hconditions, rfl⟩)
  have hfilters : invited.filters.mapM (Filter.pair .empty) = .ok [("age", "lt.40")] := by cbv
  have hgroups : invited.groups.mapM (Filter.groupPair .empty) =
      .ok [("or", "(host.is.null,age.not.in.(18,21))")] := by cbv
  refine ⟨he, _, t, extend_start_eq_ok.2 ⟨_, hconditions, rfl⟩, ht, ?_⟩
  rw [hq, ← hq', queryString_filtered hfilters hgroups]
  rfl

end Pipeline

end RemoteTable
