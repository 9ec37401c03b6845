import Mathlib
import RemoteTable.Proofs.Query.Analysis

/-!
Predicates and their filters have the same rows. A filter answers as its predicate does, but for a
test of a truth column: it has an answer for null, where the predicate has none. Neither is `yes`.
-/

namespace RemoteTable

variable {k : Tests} {m : Entity} {bag : Bag} {row : TableRow}

namespace Filter

/-- A test for a truth value, negated or not. -/
def IsCheck (f : Filter) : Prop := f.op = .is ∧ ∃ b, f.operand = .literal (.bool b)

/-- What a predicate may answer where its filter stands for it. -/
inductive Means (k : Tests) (bag : Bag) (row : TableRow) : Filter → Truth → Prop where
  | check (column : String) (b : Bool) :
      Means k bag row ⟨column, .is, false, .literal (.bool b)⟩
        (if b then Truth.ofValue (row column) else (Truth.ofValue (row column)).not)
  | exact (f : Filter) (hf : ¬ f.IsCheck) : Means k bag row f (f.truth k bag row)

theorem effective_negated (f : Filter) (v : Value) :
    ({ f with negated := !f.negated } : Filter).effective v =
      ((f.effective v).1, !(f.effective v).2) := by
  obtain ⟨c, op, negated, operand⟩ := f
  cases op with
  | compare op => cases op <;> cases hv : v.isNull <;> simp [effective, hv]
  | _ => rfl

theorem truth_negated (f : Filter) :
    ({ f with negated := !f.negated } : Filter).truth k bag row = (f.truth k bag row).not := by
  unfold truth
  cases f.operand.valueIn bag with
  | error _ => rfl
  | ok v =>
    simp only [answer, effective_negated]
    cases (f.effective v).2 <;> simp

theorem Means.opposite {f : Filter} {t : Truth} (h : Means k bag row f t) :
    Means k bag row (Predicate.opposite f) t.not := by
  cases h with
  | check column b =>
    cases b with
    | true => exact .check column false
    | false =>
      rw [if_neg Bool.false_ne_true, Truth.not_not]
      exact .check column true
  | exact f hf =>
    have hop : Predicate.opposite f = { f with negated := !f.negated } := by
      unfold Predicate.opposite
      split
      next b hop hoperand => exact absurd ⟨hop, b, hoperand⟩ hf
      next => rfl
    rw [hop, ← truth_negated]
    exact .exact _ hf

theorem Means.eq_yes {f : Filter} {t : Truth} (h : Means k bag row f t) :
    f.truth k bag row = .yes ↔ t = .yes := by
  cases h with
  | exact f hf => rfl
  | check column b =>
    have htest : Tests.isAs (row column) (.bool b) = true ↔ row column = .bool b := by
      cases row column <;> simp [Tests.isAs, Value.asBool?]
    have hvalue : Truth.ofValue (row column) = Truth.ofBool b ↔ row column = .bool b :=
      Truth.ofValue_eq_ofBool
    have htruth : truth k bag row ⟨column, .is, false, .literal (.bool b)⟩ =
        .ofBool (Tests.isAs (row column) (.bool b)) := rfl
    rw [htruth, Truth.ofBool_eq_yes, htest, ← hvalue]
    cases b <;> simp [Truth.ofBool]

end Filter

namespace Expr

@[simp] theorem value?_stripped (e : Expr) :
    e.stripped.value? m bag row = e.value? m bag row := by
  fun_induction stripped e with
  | case1 e ih => simpa [value?] using ih
  | case2 => rfl

@[simp] theorem namesNull_stripped (e : Expr) : e.stripped.namesNull bag = e.namesNull bag := by
  fun_induction stripped e with
  | case1 e ih => simpa [namesNull] using ih
  | case2 => rfl

end Expr

namespace Predicate

open RemoteTable.Expr

theorem value?_column {p c : String} (h : m.columnOf p = .ok c) :
    (Expr.column p).value? m bag row = some (row c) := by
  simp [value?, columnOf_eq_ok h]

/-- The value of an operand in a request, if there is one. -/
def given (bag : Bag) (operand : Operand) : Option Value := (operand.valueIn bag).toOption

theorem given_param (name : String) : given bag (.param name) = bag.find? name := by
  simp only [given, Operand.valueIn, Bag.valueOf]
  cases bag.find? name <;> rfl

theorem value?_operandOf (m : Entity) (row : TableRow) {e : Expr} {operand : Operand}
    (h : operandOf e = .ok operand) :
    e.value? m bag row = given bag operand ∧
      e.namesNull bag = (given bag operand).any Value.isNull := by
  cases e with
  | const v =>
    have hv : operand = .literal v := by
      cases v <;> simp [operandOf] at h <;> exact h.symm
    subst hv
    exact ⟨rfl, rfl⟩
  | param name =>
    have hname : operand = .param name := by simpa [operandOf] using h.symm
    subst hname
    simp [given_param, value?, namesNull]
  | _ => simp [operandOf] at h

theorem truth_eq_asked (f : Filter) :
    f.truth k bag row = asked (f.answer k) (some (row f.column)) (given bag f.operand) := by
  unfold Filter.truth given
  cases f.operand.valueIn bag <;> rfl

/-- What is compared with null is tested for null. -/
theorem answer_compare (c : String) (op : Comparison) (operand : Operand) :
    Filter.answer k ⟨c, .compare op, false, operand⟩ =
      fun a v => if v.isNull then nullTest op a else k.compared op a v := by
  funext a v
  cases v with
  | null =>
    have hnull : k.compared op a .null = .unknown := by simp [Tests.compared, Value.isNull]
    cases op <;>
      simp [Filter.answer, Filter.effective, Tests.answer, Tests.isAs, nullTest, hnull, Value.isNull]
  | _ => cases op <;> rfl

theorem not_isCheck {c : String} {op : ColumnTest} {negated : Bool} {operand : Operand}
    (hop : op ≠ .is) : ¬ (⟨c, op, negated, operand⟩ : Filter).IsCheck := fun h => hop h.1

/-- A comparison of a column with an operand, as the predicate puts it. -/
def columnTest (k : Tests) (m : Entity) (bag : Bag) (row : TableRow) (op : Comparison) (p : String)
    (e : Expr) : Truth :=
  asked (if e.namesNull bag then fun a _ => nullTest op a else k.compared op)
    ((Expr.column p).value? m bag row) (e.value? m bag row)

theorem truth_compare {c p : String} {op : Comparison} {e : Expr} {operand : Operand}
    (hc : m.columnOf p = .ok c) (ho : operandOf e = .ok operand) :
    Filter.truth k bag row ⟨c, .compare op, false, operand⟩ = columnTest k m bag row op p e := by
  obtain ⟨hvalue, hnull⟩ := value?_operandOf m row ho
  rw [truth_eq_asked, answer_compare, columnTest, value?_column hc, hvalue, hnull]
  cases given bag operand with
  | none => rfl
  | some v => cases hv : v.isNull <;> simp [asked, hv]

theorem means_compareColumn {op : Comparison} {p : String} {e : Expr} {f : Filter}
    (h : compareColumn m op p e = .ok f) :
    f.Means k bag row (columnTest k m bag row op p e) := by
  obtain ⟨c, hc, h⟩ := Except.bind_eq_ok.1 h
  obtain ⟨operand, ho, h⟩ := Except.bind_eq_ok.1 h
  rw [← truth_compare hc ho]
  split at h
  next hnull =>
    obtain rfl : operand = .literal .null := by
      cases operand with
      | param name => simp [Operand.isNull] at hnull
      | literal v => cases v <;> simp_all [Operand.isNull, Value.isNull]
    -- a comparison with null answers as the test for null that stands for it
    cases op <;> simp only [reduceCtorEq, Except.ok.injEq] at h <;> subst h
    · exact .exact _ (by simp [Filter.IsCheck])
    · exact .exact _ (by simp [Filter.IsCheck])
  next =>
    obtain rfl := Except.ok.inj h
    exact .exact _ (not_isCheck (by simp))

theorem nullTest_reversed (op : Comparison) : nullTest op.reversed = nullTest op := by
  cases op <;> rfl

/-- With the column on the right, a comparison is the reversed one of the column. -/
theorem comparison_column_right (op : Comparison) (e : Expr) (p : String) :
    comparison k m bag row op e (.column p) = columnTest k m bag row op.reversed p e := by
  have hp : (Expr.column p).namesNull bag = false := rfl
  unfold comparison columnTest
  simp only [hp, nullTest_reversed, Bool.false_eq_true, if_false]
  cases e.value? m bag row <;> cases (Expr.column p).value? m bag row <;>
    cases e.namesNull bag <;> simp [asked, k.compared_reversed]

theorem comparison_column_left (op : Comparison) (p : String) (e : Expr) :
    comparison k m bag row op (.column p) e = columnTest k m bag row op p e := by
  have hp : (Expr.column p).namesNull bag = false := rfl
  simp [comparison, columnTest, hp]

theorem comparison_stripped (op : Comparison) (l r : Expr) :
    comparison k m bag row op l.stripped r.stripped = comparison k m bag row op l r := by
  simp [comparison]

theorem means_ofComparison {op : Comparison} {l r : Expr} {f : Filter}
    (h : ofComparison m op l r = .ok f) :
    f.Means k bag row (comparison k m bag row op l r) := by
  rw [← comparison_stripped]
  unfold ofComparison at h
  split at h
  next => simp at h
  next p hl _ =>
    rw [hl, comparison_column_left]
    exact means_compareColumn h
  next p hr _ =>
    rw [hr, comparison_column_right]
    exact means_compareColumn h
  next => simp at h

theorem means_search {c p : String} {op : ColumnTest} {operand : Operand} {v : Option Value}
    (hop : op = .like ∨ op = .ilike ∨ op = .oneOf) (hc : m.columnOf p = .ok c)
    (hv : v = given bag operand) :
    Filter.Means k bag row ⟨c, op, false, operand⟩
      (asked (k.answer op) ((Expr.column p).value? m bag row) v) := by
  have htruth : Filter.truth k bag row ⟨c, op, false, operand⟩ =
      asked (k.answer op) ((Expr.column p).value? m bag row) v := by
    rw [truth_eq_asked, value?_column hc, hv]
    rcases hop with rfl | rfl | rfl <;> rfl
  rw [← htruth]
  refine .exact _ (not_isCheck ?_)
  rcases hop with rfl | rfl | rfl <;> simp

theorem pattern_eq_around (method : CallName) (text : String) :
    pattern method text = method.around text := by
  cases method <;> simp [pattern, CallName.around]

theorem means_textSearch {method : CallName} {p : String} {arg : Expr} {f : Filter}
    (h : textSearch m method p arg = .ok f) :
    f.Means k bag row
      (asked k.like ((Expr.column p).value? m bag row) (patternOf m bag row method arg)) := by
  obtain ⟨c, hc, h⟩ := Except.bind_eq_ok.1 h
  split at h
  next s hs =>
    obtain rfl := Except.ok.inj h
    refine means_search (.inl rfl) hc ?_
    rw [patternOf, hs, pattern_eq_around]
    rfl
  next name hname =>
    obtain rfl := Except.ok.inj h
    refine means_search (.inl rfl) hc ?_
    rw [patternOf, hname, given_param]
    rfl
  next => simp at h

theorem means_listSearch {list item : Expr} {f : Filter} (h : listSearch m list item = .ok f) :
    f.Means k bag row (asked k.oneOf (item.value? m bag row) (list.value? m bag row)) := by
  rw [← value?_stripped item, ← value?_stripped list]
  unfold listSearch at h
  split at h
  next p hp =>
    obtain ⟨c, hc, h⟩ := Except.bind_eq_ok.1 h
    rw [hp]
    split at h
    next items hitems =>
      obtain rfl := Except.ok.inj h
      exact means_search (.inr (.inr rfl)) hc (by rw [hitems]; rfl)
    next name hname =>
      obtain rfl := Except.ok.inj h
      exact means_search (.inr (.inr rfl)) hc (by rw [hname, given_param]; rfl)
    next => simp at h
  next => simp at h

theorem means_patternMatch {method : CallName} {op : ColumnTest} {e pattern : Expr} {f : Filter}
    (hop : op = .like ∨ op = .ilike) (h : patternMatch m method op e pattern = .ok f) :
    f.Means k bag row
      (asked (k.answer op) (e.value? m bag row) (pattern.value? m bag row)) := by
  have hop : op = .like ∨ op = .ilike ∨ op = .oneOf := hop.imp_right .inl
  rw [← value?_stripped e, ← value?_stripped pattern]
  unfold patternMatch at h
  split at h
  next p hp =>
    obtain ⟨c, hc, h⟩ := Except.bind_eq_ok.1 h
    rw [hp]
    split at h
    next s hs =>
      obtain rfl := Except.ok.inj h
      exact means_search hop hc (by rw [hs]; rfl)
    next name hname =>
      obtain rfl := Except.ok.inj h
      exact means_search hop hc (by rw [hname, given_param]; rfl)
    next => simp at h
  next => simp at h

theorem value?_of_stripped {e : Expr} {p : String} (h : e.stripped = .column p) :
    e.value? m bag row = (Expr.column p).value? m bag row := by rw [← h, value?_stripped]

theorem means_ofCall {method : CallName} {target : Option Expr} {args : List Expr} {f : Filter}
    (h : ofCall m method target args = .ok f) :
    f.Means k bag row (called k m bag row method target args) := by
  unfold ofCall at h
  split at h
  next p arg htarget =>
    obtain ⟨e, rfl, he⟩ := Option.map_eq_some_iff.1 htarget
    have hcolumn : e.isColumn = true := by simp [isColumn, he]
    simp only [called, hcolumn, if_true, value?_of_stripped he]
    exact means_textSearch h
  next p arg htarget =>
    obtain ⟨e, rfl, he⟩ := Option.map_eq_some_iff.1 htarget
    simp only [called, value?_of_stripped he]
    exact means_textSearch h
  next p arg htarget =>
    obtain ⟨e, rfl, he⟩ := Option.map_eq_some_iff.1 htarget
    simp only [called, value?_of_stripped he]
    exact means_textSearch h
  next list item hne htarget =>
    obtain ⟨e, rfl, rfl⟩ := Option.map_eq_some_iff.1 htarget
    have hcolumn : e.isColumn = false := by
      unfold isColumn
      split
      next p hp => exact absurd hp (hne p)
      next => rfl
    simp only [called, hcolumn, Bool.false_eq_true, if_false]
    rw [← value?_stripped e]
    exact means_listSearch h
  next list item htarget =>
    obtain rfl := Option.map_eq_none_iff.1 htarget
    exact means_listSearch h
  next e pattern htarget =>
    obtain rfl := Option.map_eq_none_iff.1 htarget
    exact means_patternMatch (.inl rfl) h
  next e pattern htarget =>
    obtain rfl := Option.map_eq_none_iff.1 htarget
    exact means_patternMatch (.inr rfl) h
  next => simp at h

theorem means_booleanColumn {p : String} {f : Filter} (h : booleanColumn m p = .ok f) :
    f.Means k bag row ((Expr.column p).truth k m bag row) := by
  unfold booleanColumn at h
  split at h
  next => simp at h
  next field hfield =>
    split at h
    next =>
      obtain rfl := Except.ok.inj h
      have hvalue : (Expr.column p).value? m bag row = some (row field.column) := by
        simp [value?, Entity.column?, hfield]
      have htruth : (Expr.column p).truth k m bag row = Truth.ofValue (row field.column) := by
        simp [Expr.truth, hvalue]
      rw [htruth]
      exact .check field.column true
    next => simp at h

/-- The filter of a predicate belongs to its answer, on every row. -/
theorem means_filterOf {e : Expr} {f : Filter} (h : filterOf m e = .ok f) :
    f.Means k bag row (e.truth k m bag row) := by
  fun_induction filterOf m e generalizing f with
  | case1 e ih => exact ih h
  | case2 e ih =>
    obtain ⟨g, hg, rfl⟩ := Except.map_eq_ok.1 h
    exact (ih (Except.mapError_eq_ok.1 hg)).opposite
  | case3 op l r => exact means_ofComparison h
  | case7 method target args => exact means_ofCall h
  | case8 p => exact means_booleanColumn h
  | _ => simp at h

theorem pass_append (a b : Conditions) :
    (a ++ b).pass k bag row = (a.pass k bag row && b.pass k bag row) := by
  have happend : a ++ b = ⟨a.filters ++ b.filters, a.groups ++ b.groups⟩ := rfl
  simp only [happend, Conditions.pass, List.all_append]
  cases a.filters.all (Filter.passes k bag row) <;>
    cases b.filters.all (Filter.passes k bag row) <;> simp

theorem passes_filterOf {e : Expr} {f : Filter} (h : filterOf m e = .ok f) :
    f.passes k bag row = true ↔ e.truth k m bag row = .yes := by
  rw [Filter.passes_eq_true]
  exact (means_filterOf h).eq_yes

/-- A disjunction holds where one of its branches passes. -/
theorem any_branches {e : Expr} {g : List Filter} (h : branches m e = .ok g) :
    g.any (Filter.passes k bag row) = true ↔ e.truth k m bag row = .yes := by
  fun_induction branches m e generalizing g with
  | case1 e ih => exact ih h
  | case2 l r ihl ihr =>
    obtain ⟨a, ha, h⟩ := Except.bind_eq_ok.1 h
    obtain ⟨b, hb, h⟩ := Except.bind_eq_ok.1 h
    obtain rfl := Except.ok.inj h
    rw [List.any_append, Bool.or_eq_true, ihl ha, ihr hb, Expr.truth, Truth.or_eq_yes]
  | case3 e _ _ =>
    obtain ⟨f, hf, rfl⟩ := Except.map_eq_ok.1 h
    simpa using passes_filterOf hf

theorem pass_conditionsOf {e : Expr} {c : Conditions} (h : conditionsOf m e = .ok c) :
    c.pass k bag row = true ↔ e.truth k m bag row = .yes := by
  fun_induction conditionsOf m e generalizing c with
  | case1 e ih => exact ih h
  | case2 l r ihl ihr =>
    obtain ⟨a, ha, h⟩ := Except.bind_eq_ok.1 h
    obtain ⟨b, hb, h⟩ := Except.bind_eq_ok.1 h
    obtain rfl := Except.ok.inj h
    rw [pass_append, Bool.and_eq_true, ihl ha, ihr hb, Expr.truth, Truth.and_eq_yes]
  | case3 l r =>
    obtain ⟨g, hg, rfl⟩ := Except.map_eq_ok.1 h
    simpa [Conditions.pass] using any_branches hg
  | case4 e _ _ _ =>
    obtain ⟨f, hf, rfl⟩ := Except.map_eq_ok.1 h
    simpa [Conditions.pass] using passes_filterOf hf

/-- The conditions of a predicate select the rows on which the predicate holds: on each of them
every filter answers `yes`, and a filter of every group. -/
theorem selects_conditionsOf (k : Tests) (m : Entity) (e : Expr) (c : Conditions)
    (h : conditionsOf m e = .ok c) (bag : Bag) (row : TableRow) :
    ((∀ f ∈ c.filters, f.truth k bag row = .yes) ∧
        ∀ g ∈ c.groups, ∃ f ∈ g, f.truth k bag row = .yes) ↔
      e.truth k m bag row = .yes := by
  rw [← pass_conditionsOf h]
  simp [Conditions.pass]

def guest : Entity :=
  ⟨"Guest", "guests", [⟨"Name", "name", .text, false, false⟩, ⟨"Age", "age", .int32, false, true⟩,
    ⟨"Banned", "is_banned", .bool, false, true⟩, ⟨"Host", "host", .text, false, true⟩], [], []⟩

/-- Adults with a host who are not banned or have an "an" in their names. -/
def welcome : Expr :=
  .and
    (.or (.not (.column "Banned"))
      (.call .contains (some (.column "Name")) [.const (.text "an")]))
    (.and (.compare .lte (.const (.int 18)) (.column "Age"))
      (.not (.compare .eq (.convert (.column "Host")) (.param "host"))))

def welcomed : Conditions :=
  ⟨[⟨"age", .compare .gte, false, .literal (.int 18)⟩, ⟨"host", .compare .eq, true, .param "host"⟩],
    [[⟨"is_banned", .is, false, .literal (.bool false)⟩,
      ⟨"name", .like, false, .literal (.text "*an*")⟩]]⟩

def dana : TableRow
  | "name" => .text "Dana"
  | "age" => .int 30
  | "host" => .text "Kim"
  | _ => .null

theorem selects_welcomed : conditionsOf guest welcome = .ok welcomed ∧
    welcome.truth .scalars guest (.ofList [("host", .null)]) dana = .yes ∧
    (∀ f ∈ welcomed.filters, f.truth .scalars (.ofList [("host", .null)]) dana = .yes) ∧
    ∀ g ∈ welcomed.groups, ∃ f ∈ g, f.truth .scalars (.ofList [("host", .null)]) dana = .yes := by
  have h : conditionsOf guest welcome = .ok welcomed := by cbv
  have hyes : welcome.truth .scalars guest (.ofList [("host", .null)]) dana = .yes := by cbv
  exact ⟨h, hyes, (selects_conditionsOf .scalars guest welcome welcomed h _ dana).2 hyes⟩

end Predicate

end RemoteTable
