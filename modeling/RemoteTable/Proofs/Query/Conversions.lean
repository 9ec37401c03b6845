import Mathlib
import RemoteTable.Proofs.Query.Flattening

/-!
Conversions have no meaning of their own: an expression is translated as it is without them, at
whatever depth they stand, and refused for the same reason.
-/

namespace RemoteTable

namespace Expr

mutual

/-- The expression without its conversions, at every depth. -/
def unconverted : Expr → Expr
  | .column p => .column p
  | .member e name => .member (unconverted e) name
  | .const v => .const v
  | .param name => .param name
  | .convert e => unconverted e
  | .compare op l r => .compare op (unconverted l) (unconverted r)
  | .and l r => .and (unconverted l) (unconverted r)
  | .or l r => .or (unconverted l) (unconverted r)
  | .arith op l r => .arith op (unconverted l) (unconverted r)
  | .not e => .not (unconverted e)
  | .call method target args =>
    .call method (unconvertedTarget target) (unconvertedItems args)

def unconvertedTarget : Option Expr → Option Expr
  | none => none
  | some e => some (unconverted e)

def unconvertedItems : List Expr → List Expr
  | [] => []
  | e :: r => unconverted e :: unconvertedItems r

end

def isConversion : Expr → Bool
  | .convert _ => true
  | _ => false

theorem unconvertedTarget_eq (target : Option Expr) :
    unconvertedTarget target = target.map unconverted := by
  cases target <;> rfl

theorem unconvertedItems_eq (args : List Expr) :
    unconvertedItems args = args.map unconverted := by
  induction args with
  | nil => rfl
  | cons e args ih => rw [unconvertedItems, ih, List.map_cons]

theorem lacks_of_sides {e l r : Expr} {kind : Expr → Bool}
    (hparts : e.parts = e :: (l.parts ++ r.parts)) (he : kind e = false) (hl : l.Lacks kind)
    (hr : r.Lacks kind) : e.Lacks kind := by
  intro part hpart
  rw [hparts] at hpart
  rcases List.mem_cons.1 hpart with rfl | hpart
  · exact he
  · exact (List.mem_append.1 hpart).elim (hl part) (hr part)

mutual

/-- No conversion is left. -/
theorem lacks_unconverted (e : Expr) : e.unconverted.Lacks isConversion := by
  cases e with
  | convert e => exact lacks_unconverted e
  | member e name =>
    simpa [unconverted, Lacks, parts, isConversion] using lacks_unconverted e
  | not e =>
    simpa [unconverted, Lacks, parts, isConversion] using lacks_unconverted e
  | compare op l r => exact lacks_of_sides rfl rfl (lacks_unconverted l) (lacks_unconverted r)
  | and l r => exact lacks_of_sides rfl rfl (lacks_unconverted l) (lacks_unconverted r)
  | or l r => exact lacks_of_sides rfl rfl (lacks_unconverted l) (lacks_unconverted r)
  | arith op l r => exact lacks_of_sides rfl rfl (lacks_unconverted l) (lacks_unconverted r)
  | call method target args =>
    intro part hpart
    rw [unconverted, parts] at hpart
    rcases List.mem_cons.1 hpart with rfl | hpart
    · rfl
    · exact (List.mem_append.1 hpart).elim (lacks_unconvertedTarget target part)
        (lacks_unconvertedItems args part)
  | _ => simp [unconverted, Lacks, parts, isConversion]

theorem lacks_unconvertedTarget (target : Option Expr) :
    ∀ part ∈ partsOfTarget (unconvertedTarget target), part.isConversion = false := by
  cases target with
  | none => simp [unconvertedTarget, partsOfTarget]
  | some e => exact lacks_unconverted e

theorem lacks_unconvertedItems (args : List Expr) :
    ∀ part ∈ partsOfItems (unconvertedItems args), part.isConversion = false := by
  cases args with
  | nil => simp [unconvertedItems, partsOfItems]
  | cons e args =>
    intro part hpart
    exact (List.mem_append.1 hpart).elim (lacks_unconverted e part)
      (lacks_unconvertedItems args part)

end

theorem unconverted_stripped (e : Expr) : e.stripped.unconverted = e.unconverted := by
  fun_induction stripped e with
  | case1 e ih => exact ih
  | case2 => rfl

theorem stripped_unconverted (e : Expr) : e.unconverted.stripped = e.unconverted := by
  fun_induction stripped e with
  | case1 e ih => exact ih
  | case2 e he =>
    cases e with
    | convert e => exact absurd rfl (he e)
    | _ => rfl

/-- What stands under the conversions around an expression, with and without those inside. -/
theorem exists_stripped (e : Expr) : ∃ x, (∀ y, x ≠ .convert y) ∧ e.stripped = x ∧
    e.unconverted.stripped = x.unconverted := by
  refine ⟨e.stripped, ?_, rfl, ?_⟩
  · fun_induction stripped e with
    | case1 e ih => exact ih
    | case2 e he => exact he
  · rw [stripped_unconverted, unconverted_stripped]

end Expr

namespace Predicate

open RemoteTable.Expr

variable {m : Entity}

theorem compareColumn_unconverted {op : Comparison} {p : String} {e : Expr}
    (he : ∀ y, e ≠ .convert y) :
    compareColumn m op p e.unconverted = compareColumn m op p e := by
  have hoperand : operandOf e.unconverted = operandOf e := by
    cases e with
    | convert e => exact absurd rfl (he e)
    | _ => rfl
  simp only [compareColumn, hoperand]

theorem ofComparison_unconverted (op : Comparison) (l r : Expr) :
    ofComparison m op l.unconverted r.unconverted = ofComparison m op l r := by
  obtain ⟨x, hx, hl, hl'⟩ := exists_stripped l
  obtain ⟨y, hy, hr, hr'⟩ := exists_stripped r
  simp only [ofComparison, hl, hl', hr, hr']
  cases x with
  | convert x => exact absurd rfl (hx x)
  | column p =>
    cases y with
    | convert y => exact absurd rfl (hy y)
    | column q => rfl
    | _ => exact compareColumn_unconverted hy
  | _ =>
    cases y with
    | convert y => exact absurd rfl (hy y)
    | column q => exact compareColumn_unconverted hx
    | _ => rfl

theorem textSearch_unconverted (method : CallName) (p : String) (arg : Expr) :
    textSearch m method p arg.unconverted = textSearch m method p arg := by
  obtain ⟨x, hx, harg, harg'⟩ := exists_stripped arg
  simp only [textSearch, harg, harg']
  cases x with
  | convert x => exact absurd rfl (hx x)
  | _ => rfl

theorem listSearch_unconverted (list item : Expr) :
    listSearch m list.unconverted item.unconverted = listSearch m list item := by
  obtain ⟨x, hx, hlist, hlist'⟩ := exists_stripped list
  obtain ⟨y, hy, hitem, hitem'⟩ := exists_stripped item
  simp only [listSearch, hlist, hlist', hitem, hitem']
  cases y with
  | convert y => exact absurd rfl (hy y)
  | column p =>
    cases x with
    | convert x => exact absurd rfl (hx x)
    | _ => rfl
  | _ => rfl

theorem patternMatch_unconverted (method : CallName) (op : ColumnTest) (subject pattern : Expr) :
    patternMatch m method op subject.unconverted pattern.unconverted =
      patternMatch m method op subject pattern := by
  obtain ⟨x, hx, hsubject, hsubject'⟩ := exists_stripped subject
  obtain ⟨y, hy, hpattern, hpattern'⟩ := exists_stripped pattern
  simp only [patternMatch, hsubject, hsubject', hpattern, hpattern']
  cases x with
  | convert x => exact absurd rfl (hx x)
  | column p =>
    cases y with
    | convert y => exact absurd rfl (hy y)
    | _ => rfl
  | _ => rfl

/-- A method that is called on nothing is told by its number of arguments. -/
theorem ofCall_none_unconverted (method : CallName) (args : List Expr) :
    ofCall m method none (args.map unconverted) = ofCall m method none args := by
  rcases args with _ | ⟨a, _ | ⟨b, _ | ⟨c, rest⟩⟩⟩
  · cases method <;> rfl
  · cases method <;> rfl
  · cases method with
    | contains => exact listSearch_unconverted a b
    | like => exact patternMatch_unconverted .like .like a b
    | ilike => exact patternMatch_unconverted .ilike .ilike a b
    | _ => rfl
  · cases method <;> rfl

/-- A method of an expression has one argument. -/
theorem ofCall_some_of_length {method : CallName} {e : Expr} {args : List Expr}
    (h : args.length ≠ 1) : ofCall m method (some e) args = .error (.method method.label) := by
  unfold ofCall
  split <;> first | rfl | simp_all

theorem ofCall_some_unconverted (method : CallName) (e : Expr) (args : List Expr) :
    ofCall m method (some e.unconverted) (args.map unconverted) =
      ofCall m method (some e) args := by
  by_cases hargs : args.length = 1
  case neg => rw [ofCall_some_of_length hargs, ofCall_some_of_length (by simpa using hargs)]
  obtain ⟨a, rfl⟩ := List.length_eq_one_iff.1 hargs
  obtain ⟨x, hx, he, he'⟩ := exists_stripped e
  simp only [ofCall, Option.map_some, he, he']
  cases x with
  | convert x => exact absurd rfl (hx x)
  | column p =>
    cases method with
    | contains => exact textSearch_unconverted .contains p a
    | startsWith => exact textSearch_unconverted .startsWith p a
    | endsWith => exact textSearch_unconverted .endsWith p a
    | _ => rfl
  | _ =>
    cases method with
    | contains => exact listSearch_unconverted _ a
    | _ => rfl

theorem ofCall_unconverted (method : CallName) (target : Option Expr) (args : List Expr) :
    ofCall m method (target.map unconverted) (args.map unconverted) =
      ofCall m method target args := by
  cases target with
  | none => exact ofCall_none_unconverted method args
  | some e => exact ofCall_some_unconverted method e args

theorem filterOf_unconverted (m : Entity) (e : Expr) :
    filterOf m e.unconverted = filterOf m e := by
  fun_induction filterOf m e with
  | case1 e ih => exact ih
  | case2 e ih => rw [unconverted, filterOf, ih]
  | case3 op l r => exact ofComparison_unconverted op l r
  | case7 method target args =>
    rw [unconverted, unconvertedTarget_eq, unconvertedItems_eq]
    exact ofCall_unconverted method target args
  | _ => rfl

theorem branches_unconverted (m : Entity) (e : Expr) :
    branches m e.unconverted = branches m e := by
  fun_induction branches m e with
  | case1 e ih => exact ih
  | case2 l r ihl ihr => rw [unconverted, branches, ihl, ihr]
  | case3 e hconvert hor =>
    rw [← filterOf_unconverted]
    cases e with
    | convert e => exact absurd rfl (hconvert e)
    | or l r => exact absurd rfl (hor l r)
    | _ => rfl

theorem conditionsOf_unconverted (m : Entity) (e : Expr) :
    conditionsOf m e.unconverted = conditionsOf m e := by
  fun_induction conditionsOf m e with
  | case1 e ih => exact ih
  | case2 l r ihl ihr => rw [unconverted, conditionsOf, ihl, ihr]
  | case3 l r =>
    rw [← branches_unconverted]
    rfl
  | case4 e hconvert hand hor =>
    rw [← filterOf_unconverted]
    cases e with
    | convert e => exact absurd rfl (hconvert e)
    | and l r => exact absurd rfl (hand l r)
    | or l r => exact absurd rfl (hor l r)
    | _ => rfl

end Predicate

namespace Pipeline

open RemoteTable.Expr

theorem keyColumn_unconverted (m : Entity) (key : Expr) :
    keyColumn m key.unconverted = keyColumn m key := by
  obtain ⟨x, hx, hkey, hkey'⟩ := exists_stripped key
  simp only [keyColumn, hkey, hkey']
  cases x with
  | convert x => exact absurd rfl (hx x)
  | _ => rfl

/-- Without its conversions a predicate has the same conditions, or the same obstacle is in its way;
and a key orders by the same column, or is refused for the same reason. -/
theorem unconverted_transparent (m : Entity) (e : Expr) :
    e.unconverted.Lacks isConversion ∧
      Predicate.conditionsOf m e.unconverted = Predicate.conditionsOf m e ∧
      keyColumn m e.unconverted = keyColumn m e :=
  ⟨lacks_unconverted e, Predicate.conditionsOf_unconverted m e, keyColumn_unconverted m e⟩

end Pipeline

end RemoteTable
