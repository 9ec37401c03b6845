import Mathlib
import RemoteTable.Proofs.Outcome
import RemoteTable.Proofs.Query.Meaning

/-!
What the analysis of a predicate accepts as one filter. A test of a column has its operand from a
constant of some form or from a parameter; each kind of test is told here by that form, so that no
other proof has to go through the cases of the analysis again.
-/

namespace RemoteTable

namespace Filter

/-- An operand that a test can be written with. -/
def Takes (f : Filter) (v : Value) : Prop :=
  match f.op with
  | .oneOf => True
  | .is => v = .null ∨ ∃ b, v = .bool b
  | _ => v.isList = false

variable {bag : Bag} {f : Filter} {v : Value}

/-- The segment of a filter whose operand has a value. -/
theorem segment_of_valueIn (hv : f.operand.valueIn bag = .ok v) (grouped : Bool) :
    f.segment bag grouped = (operandText f.column grouped (f.effective v).1 v).map
      fun text => (if (f.effective v).2 then "not." else "") ++ (f.effective v).1.label ++ "." ++
        text := by
  rw [segment, hv]
  rfl

theorem exists_operandText (h : f.Takes v) (grouped : Bool) :
    ∃ text, operandText f.column grouped (f.effective v).1 v = .ok text := by
  obtain ⟨column, op, negated, operand⟩ := f
  cases op with
  | oneOf => exact ⟨_, rfl⟩
  | is =>
    rcases h with rfl | ⟨b, rfl⟩
    · exact ⟨_, rfl⟩
    · exact ⟨_, rfl⟩
  | compare c =>
    have hlist : v.isList = false := h
    -- an equality with null is written as the test for null
    by_cases hnull : v = .null
    · subst hnull
      cases c <;> exact ⟨_, rfl⟩
    · have hnull : v.isNull = false := by cases v <;> simp_all [Value.isNull]
      cases c <;> simp [effective, operandText, hnull, hlist]
  | like =>
    have hlist : v.isList = false := h
    simp [effective, operandText, hlist]
  | ilike =>
    have hlist : v.isList = false := h
    simp [effective, operandText, hlist]

/-- A filter is written with any operand that it takes. -/
theorem exists_segment (hv : f.operand.valueIn bag = .ok v) (h : f.Takes v) (grouped : Bool) :
    ∃ s, f.segment bag grouped = .ok s := by
  obtain ⟨text, htext⟩ := exists_operandText h grouped
  rw [segment_of_valueIn hv, htext]
  exact ⟨_, rfl⟩

/-- What the analysis makes of a predicate: a test of a column of the model that can be written with
its operand. What is named for later is not tested for being null or a truth value, and what is
compared is not a null that is known. -/
structure Formed (m : Entity) (f : Filter) : Prop where
  column : ∃ p, m.column? p = some f.column
  known : ∀ v, f.operand = .literal v → f.Takes v
  named : ∀ name, f.operand = .param name → f.op ≠ .is
  compared : ∀ op, f.op = .compare op → f.operand.isNull = false

theorem Formed.opposite {m : Entity} (h : f.Formed m) : (Predicate.opposite f).Formed m := by
  unfold Predicate.opposite
  split
  next b hop _ =>
    refine ⟨h.column, fun v hv => ?_, fun name hname => ?_, fun op hcompare => ?_⟩
    · cases hv
      simp only [Takes, hop]
      exact .inr ⟨_, rfl⟩
    · cases hname
    · simp [hop] at hcompare
  next => exact ⟨h.column, h.known, h.named, h.compared⟩

end Filter

theorem Operand.isNull_eq_true {o : Operand} : o.isNull = true ↔ o = .literal .null := by
  cases o with
  | param name => simp [isNull]
  | literal v => cases v <;> simp [isNull, Value.isNull]

namespace Predicate

/-- An operand is given by a constant of a known form, or by a parameter. -/
inductive Gives (form : Value → Option Value) : Expr → Operand → Prop
  | constant {v w : Value} (known : form v = some w) : Gives form (.const v) (.literal w)
  | parameter (name : String) : Gives form (.param name) (.param name)

def scalarForm (v : Value) : Option Value := if v.isList then none else some v

def listForm : Value → Option Value
  | .list l => some (.list l)
  | _ => none

/-- A text, as the pattern that a method makes of it. -/
def patternForm (made : String → String) : Value → Option Value
  | .text s => some (.text (made s))
  | _ => none

theorem gives_listForm {e : Expr} {o : Operand} : Gives listForm e o ↔
    (∃ l, e = .const (.list l) ∧ o = .literal (.list l)) ∨
      ∃ name, e = .param name ∧ o = .param name := by
  constructor
  · intro h
    cases h with
    | constant known =>
      rename_i v w
      cases v <;> simp only [listForm, reduceCtorEq, Option.some.injEq] at known
      exact .inl ⟨_, rfl, congrArg _ known.symm⟩
    | parameter name => exact .inr ⟨name, rfl, rfl⟩
  · rintro (⟨l, rfl, rfl⟩ | ⟨name, rfl, rfl⟩)
    · exact .constant rfl
    · exact .parameter name

theorem gives_patternForm {made : String → String} {e : Expr} {o : Operand} :
    Gives (patternForm made) e o ↔
      (∃ s, e = .const (.text s) ∧ o = .literal (.text (made s))) ∨
        ∃ name, e = .param name ∧ o = .param name := by
  constructor
  · intro h
    cases h with
    | constant known =>
      rename_i v w
      cases v <;> simp only [patternForm, reduceCtorEq, Option.some.injEq] at known
      exact .inl ⟨_, rfl, congrArg _ known.symm⟩
    | parameter name => exact .inr ⟨name, rfl, rfl⟩
  · rintro (⟨s, rfl, rfl⟩ | ⟨name, rfl, rfl⟩)
    · exact .constant rfl
    · exact .parameter name

variable {m : Entity} {f : Filter}

theorem columnOf_eq_ok {p c : String} (h : m.columnOf p = .ok c) : m.column? p = some c := by
  unfold Entity.columnOf at h
  cases hc : m.column? p with
  | none => simp [hc] at h
  | some d => simpa [hc] using h

theorem operandOf_eq_ok {e : Expr} {o : Operand} : operandOf e = .ok o ↔ Gives scalarForm e o := by
  constructor
  · intro h
    cases e with
    | const v =>
      cases v <;> simp only [operandOf, reduceCtorEq, Except.ok.injEq] at h <;> subst h <;>
        exact .constant rfl
    | param name =>
      cases h
      exact .parameter name
    | _ => simp [operandOf] at h
  · intro h
    cases h with
    | constant known =>
      rename_i v w
      cases v <;> simp [scalarForm, Value.isList] at known <;> subst known <;> rfl
    | parameter name => rfl

/-- The filter of a comparison: equality with a null that is known is the test for null. -/
inductive Compares (op : Comparison) (column : String) : Operand → Filter → Prop
  | plain {o : Operand} (known : o.isNull = false) :
      Compares op column o ⟨column, .compare op, false, o⟩
  | equalsNull (equals : op = .eq) :
      Compares op column (.literal .null) ⟨column, .is, false, .literal .null⟩
  | differsNull (differs : op = .ne) :
      Compares op column (.literal .null) ⟨column, .is, true, .literal .null⟩

theorem compareColumn_eq_ok {op : Comparison} {p : String} {e : Expr} :
    compareColumn m op p e = .ok f ↔
      ∃ c o, m.columnOf p = .ok c ∧ Gives scalarForm e o ∧ Compares op c o f := by
  simp only [compareColumn, Except.bind_eq_ok, operandOf_eq_ok]
  constructor
  · rintro ⟨c, hc, o, ho, h⟩
    refine ⟨c, o, hc, ho, ?_⟩
    split at h
    next hnull =>
      obtain rfl := Operand.isNull_eq_true.1 hnull
      cases op with
      | eq =>
        cases h
        exact .equalsNull rfl
      | ne =>
        cases h
        exact .differsNull rfl
      | _ => simp at h
    next hnull =>
      cases h
      exact .plain (by simpa using hnull)
  · rintro ⟨c, o, hc, ho, h⟩
    refine ⟨c, hc, o, ho, ?_⟩
    cases h with
    | plain known => simp [known]
    | equalsNull equals =>
      subst equals
      rfl
    | differsNull differs =>
      subst differs
      rfl

/-- A comparison is one of a column with an operand, on whichever side the column stands. -/
theorem ofComparison_eq_ok {op : Comparison} {l r : Expr} :
    ofComparison m op l r = .ok f ↔
      (∃ p, l.stripped = .column p ∧ compareColumn m op p r.stripped = .ok f) ∨
        ∃ p, r.stripped = .column p ∧ compareColumn m op.reversed p l.stripped = .ok f := by
  have hcolumn : ∀ op p q, compareColumn m op p (.column q) ≠ .ok f := by
    intro op p q h
    obtain ⟨c, o, -, ho, -⟩ := compareColumn_eq_ok.1 h
    cases ho
  unfold ofComparison
  generalize l.stripped = l
  generalize r.stripped = r
  constructor
  · intro h
    split at h
    · simp at h
    · exact .inl ⟨_, rfl, h⟩
    · exact .inr ⟨_, rfl, h⟩
    · simp at h
  · rintro (⟨p, rfl, h⟩ | ⟨p, rfl, h⟩)
    · cases r with
      | column q => exact absurd h (hcolumn _ _ _)
      | _ => exact h
    · cases l with
      | column q => exact absurd h (hcolumn _ _ _)
      | _ => exact h

theorem textSearch_eq_ok {method : CallName} {p : String} {arg : Expr} :
    textSearch m method p arg = .ok f ↔ ∃ c o, m.columnOf p = .ok c ∧
      Gives (patternForm (pattern method)) arg.stripped o ∧ f = ⟨c, .like, false, o⟩ := by
  simp only [textSearch, Except.bind_eq_ok, gives_patternForm]
  generalize arg.stripped = arg
  constructor
  · rintro ⟨c, hc, h⟩
    split at h
    next s => exact ⟨c, _, hc, .inl ⟨s, rfl, rfl⟩, (Except.ok.inj h).symm⟩
    next name => exact ⟨c, _, hc, .inr ⟨name, rfl, rfl⟩, (Except.ok.inj h).symm⟩
    next => simp at h
  · rintro ⟨c, o, hc, ⟨s, rfl, rfl⟩ | ⟨name, rfl, rfl⟩, rfl⟩
    · exact ⟨c, hc, rfl⟩
    · exact ⟨c, hc, rfl⟩

theorem listSearch_eq_ok {list item : Expr} :
    listSearch m list item = .ok f ↔ ∃ p c o, item.stripped = .column p ∧ m.columnOf p = .ok c ∧
      Gives listForm list.stripped o ∧ f = ⟨c, .oneOf, false, o⟩ := by
  simp only [listSearch, gives_listForm]
  generalize list.stripped = list
  generalize item.stripped = item
  constructor
  · intro h
    split at h
    case h_2 => simp at h
    next p =>
      obtain ⟨c, hc, h⟩ := Except.bind_eq_ok.1 h
      split at h
      · exact ⟨p, c, _, rfl, hc, .inl ⟨_, rfl, rfl⟩, (Except.ok.inj h).symm⟩
      · exact ⟨p, c, _, rfl, hc, .inr ⟨_, rfl, rfl⟩, (Except.ok.inj h).symm⟩
      · simp at h
  · rintro ⟨p, c, o, rfl, hc, ⟨l, rfl, rfl⟩ | ⟨name, rfl, rfl⟩, rfl⟩
    · exact Except.bind_eq_ok.2 ⟨c, hc, rfl⟩
    · exact Except.bind_eq_ok.2 ⟨c, hc, rfl⟩

theorem patternMatch_eq_ok {method : CallName} {op : ColumnTest} {subject pattern : Expr} :
    patternMatch m method op subject pattern = .ok f ↔
      ∃ p c o, subject.stripped = .column p ∧ m.columnOf p = .ok c ∧
        Gives (patternForm id) pattern.stripped o ∧ f = ⟨c, op, false, o⟩ := by
  simp only [patternMatch, gives_patternForm]
  generalize subject.stripped = subject
  generalize pattern.stripped = pattern
  constructor
  · intro h
    split at h
    case h_2 => simp at h
    next p =>
      obtain ⟨c, hc, h⟩ := Except.bind_eq_ok.1 h
      split at h
      · exact ⟨p, c, _, rfl, hc, .inl ⟨_, rfl, rfl⟩, (Except.ok.inj h).symm⟩
      · exact ⟨p, c, _, rfl, hc, .inr ⟨_, rfl, rfl⟩, (Except.ok.inj h).symm⟩
      · simp at h
  · rintro ⟨p, c, o, rfl, hc, ⟨s, rfl, rfl⟩ | ⟨name, rfl, rfl⟩, rfl⟩
    · exact Except.bind_eq_ok.2 ⟨c, hc, rfl⟩
    · exact Except.bind_eq_ok.2 ⟨c, hc, rfl⟩

/-- The filter of a call, by what is called on what. -/
inductive Called (m : Entity) : CallName → Option Expr → List Expr → Filter → Prop
  | text {method : CallName} {e arg : Expr} {p : String} {f : Filter}
      (method_mem : method ∈ [CallName.contains, .startsWith, .endsWith])
      (column : e.stripped = .column p) (search : textSearch m method p arg = .ok f) :
      Called m method (some e) [arg] f
  | list {e item : Expr} {f : Filter} (column : e.isColumn = false)
      (search : listSearch m e item = .ok f) : Called m .contains (some e) [item] f
  | member {list item : Expr} {f : Filter} (search : listSearch m list item = .ok f) :
      Called m .contains none [list, item] f
  | like {subject pattern : Expr} {f : Filter}
      (search : patternMatch m .like .like subject pattern = .ok f) :
      Called m .like none [subject, pattern] f
  | ilike {subject pattern : Expr} {f : Filter}
      (search : patternMatch m .ilike .ilike subject pattern = .ok f) :
      Called m .ilike none [subject, pattern] f

theorem isColumn_eq_true {e : Expr} : e.isColumn = true ↔ ∃ p, e.stripped = .column p := by
  unfold Expr.isColumn
  cases e.stripped <;> simp

theorem stripped_stripped (e : Expr) : e.stripped.stripped = e.stripped := by
  fun_induction Expr.stripped e with
  | case1 e ih => exact ih
  | case2 e he => cases e <;> first | rfl | exact absurd rfl (he _)

theorem listSearch_stripped (list item : Expr) :
    listSearch m list.stripped item = listSearch m list item := by
  simp only [listSearch, stripped_stripped]

theorem ofCall_eq_ok {method : CallName} {target : Option Expr} {args : List Expr} :
    ofCall m method target args = .ok f ↔ Called m method target args f := by
  constructor
  · intro h
    unfold ofCall at h
    split at h
    next p arg htarget =>
      obtain ⟨e, rfl, he⟩ := Option.map_eq_some_iff.1 htarget
      exact .text (by simp) he h
    next p arg htarget =>
      obtain ⟨e, rfl, he⟩ := Option.map_eq_some_iff.1 htarget
      exact .text (by simp) he h
    next p arg htarget =>
      obtain ⟨e, rfl, he⟩ := Option.map_eq_some_iff.1 htarget
      exact .text (by simp) he h
    next list item hne htarget =>
      obtain ⟨e, rfl, rfl⟩ := Option.map_eq_some_iff.1 htarget
      rw [listSearch_stripped] at h
      refine .list ?_ h
      by_contra hcolumn
      obtain ⟨p, hp⟩ := isColumn_eq_true.1 (by simpa using hcolumn)
      exact hne p hp
    next list item htarget =>
      obtain rfl := Option.map_eq_none_iff.1 htarget
      exact .member h
    next subject pattern htarget =>
      obtain rfl := Option.map_eq_none_iff.1 htarget
      exact .like h
    next subject pattern htarget =>
      obtain rfl := Option.map_eq_none_iff.1 htarget
      exact .ilike h
    next => simp at h
  · intro h
    cases h with
    | text method_mem column search =>
      simp only [List.mem_cons, List.not_mem_nil, or_false] at method_mem
      rcases method_mem with rfl | rfl | rfl <;> simpa [ofCall, column] using search
    | list column search =>
      rename_i e item
      rw [← listSearch_stripped] at search
      unfold Expr.isColumn at column
      unfold ofCall
      simp only [Option.map_some]
      generalize e.stripped = e at column search
      cases e with
      | column p => simp at column
      | _ => exact search
    | member search => exact search
    | like search => exact search
    | ilike search => exact search

/-- A call is a search in a column, for a list or for anything but a list. -/
theorem exists_search_of_ofCall {method : CallName} {target : Option Expr} {args : List Expr}
    (h : ofCall m method target args = .ok f) : ∃ p c op o, m.columnOf p = .ok c ∧
      op ∈ [ColumnTest.like, .ilike, .oneOf] ∧
      (∀ v, o = .literal v → op = .oneOf ∨ v.isList = false) ∧ f = ⟨c, op, false, o⟩ := by
  have htext : ∀ {made : String → String} {e : Expr} {o : Operand} {op : ColumnTest},
      Gives (patternForm made) e o → ∀ v, o = .literal v → op = .oneOf ∨ v.isList = false := by
    intro made e o op ho v hv
    rcases gives_patternForm.1 ho with ⟨s, -, rfl⟩ | ⟨name, -, rfl⟩
    · cases hv
      exact .inr rfl
    · cases hv
  cases ofCall_eq_ok.1 h with
  | text _ _ search =>
    obtain ⟨c, o, hc, ho, rfl⟩ := textSearch_eq_ok.1 search
    exact ⟨_, c, .like, o, hc, by simp, htext ho, rfl⟩
  | list _ search =>
    obtain ⟨p, c, o, -, hc, -, rfl⟩ := listSearch_eq_ok.1 search
    exact ⟨p, c, .oneOf, o, hc, by simp, fun _ _ => .inl rfl, rfl⟩
  | member search =>
    obtain ⟨p, c, o, -, hc, -, rfl⟩ := listSearch_eq_ok.1 search
    exact ⟨p, c, .oneOf, o, hc, by simp, fun _ _ => .inl rfl, rfl⟩
  | like search =>
    obtain ⟨p, c, o, -, hc, ho, rfl⟩ := patternMatch_eq_ok.1 search
    exact ⟨p, c, .like, o, hc, by simp, htext ho, rfl⟩
  | ilike search =>
    obtain ⟨p, c, o, -, hc, ho, rfl⟩ := patternMatch_eq_ok.1 search
    exact ⟨p, c, .ilike, o, hc, by simp, htext ho, rfl⟩

theorem booleanColumn_eq_ok {p : String} :
    booleanColumn m p = .ok f ↔ ∃ field, m.field? p = some field ∧ field.kind = .bool ∧
      f = ⟨field.column, .is, false, .literal (.bool true)⟩ := by
  unfold booleanColumn
  cases m.field? p with
  | none => simp
  | some field =>
    by_cases hkind : field.kind = .bool
    · simp [hkind, eq_comm]
    · simp [hkind]

theorem isList_of_scalarForm {v w : Value} (h : scalarForm v = some w) :
    v = w ∧ w.isList = false := by
  unfold scalarForm at h
  split at h
  · simp at h
  next hlist =>
    cases h
    exact ⟨rfl, by simpa using hlist⟩

theorem formed_compareColumn {op : Comparison} {p : String} {e : Expr}
    (h : compareColumn m op p e = .ok f) : f.Formed m := by
  obtain ⟨c, o, hc, ho, hf⟩ := compareColumn_eq_ok.1 h
  have hcolumn := columnOf_eq_ok hc
  cases hf with
  | plain known =>
    refine ⟨⟨p, hcolumn⟩, fun v hv => ?_, by simp, fun _ _ => known⟩
    subst hv
    cases ho with
    | constant known => exact (isList_of_scalarForm known).2
  | equalsNull =>
    refine ⟨⟨p, hcolumn⟩, fun v hv => ?_, by simp, by simp⟩
    cases hv
    exact .inl rfl
  | differsNull =>
    refine ⟨⟨p, hcolumn⟩, fun v hv => ?_, by simp, by simp⟩
    cases hv
    exact .inl rfl

theorem formed_ofCall {method : CallName} {target : Option Expr} {args : List Expr}
    (h : ofCall m method target args = .ok f) : f.Formed m := by
  obtain ⟨p, c, op, o, hc, hop, hvalue, rfl⟩ := exists_search_of_ofCall h
  refine ⟨⟨p, columnOf_eq_ok hc⟩, fun v hv => ?_, fun name hname his => ?_, fun cmp hcompare => ?_⟩
  · simp only [List.mem_cons, List.not_mem_nil, or_false] at hop
    rcases hop with rfl | rfl | rfl
    · exact (hvalue v hv).resolve_left (by simp)
    · exact (hvalue v hv).resolve_left (by simp)
    · exact trivial
  · subst his
    simp at hop
  · subst hcompare
    simp at hop

theorem formed_booleanColumn {p : String} (h : booleanColumn m p = .ok f) : f.Formed m := by
  obtain ⟨field, hfield, -, rfl⟩ := booleanColumn_eq_ok.1 h
  refine ⟨⟨p, congrArg (Option.map Field.column) hfield⟩, fun v hv => ?_, by simp, by simp⟩
  cases hv
  exact .inr ⟨_, rfl⟩

/-- The test that an expression becomes is a formed one. -/
theorem formed_filterOf {e : Expr} (h : filterOf m e = .ok f) : f.Formed m := by
  fun_induction filterOf m e generalizing f with
  | case1 e ih => exact ih h
  | case2 e ih =>
    obtain ⟨g, hg, rfl⟩ := Except.map_eq_ok.1 h
    exact (ih (Except.mapError_eq_ok.1 hg)).opposite
  | case3 op l r =>
    rcases ofComparison_eq_ok.1 h with ⟨p, -, h⟩ | ⟨p, -, h⟩
    · exact formed_compareColumn h
    · exact formed_compareColumn h
  | case7 method target args => exact formed_ofCall h
  | case8 p => exact formed_booleanColumn h
  | _ => simp at h

end Predicate

end RemoteTable
