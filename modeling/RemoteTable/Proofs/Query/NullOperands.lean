import Mathlib
import RemoteTable.Proofs.Query.Flattening

/-!
Nulls in comparisons. A null that stands in a predicate is tested for, or the predicate is refused.
A null that a parameter turns out to have is tested for under an equality; under an order it is
written out like any other value.
-/

namespace RemoteTable

/-- A test is among conditions, by itself or in a group. -/
def Conditions.Includes (c : Conditions) (grouped : Bool) (f : Filter) : Prop :=
  if grouped then ∃ g ∈ c.groups, f ∈ g else f ∈ c.filters

/-- What a comparison with null says: an equality is the test for null, an order names it. -/
def Comparison.nullSegment (op : Comparison) (negated : Bool) : String :=
  match op with
  | .eq => if negated then "not.is.null" else "is.null"
  | .ne => if negated then "is.null" else "not.is.null"
  | op => (if negated then "not." else "") ++ (ColumnTest.compare op).label ++ ".null"

namespace Filter

variable {bag : Bag} {f : Filter}

theorem segment_null {op : Comparison} (hop : f.op = .compare op)
    (hnull : f.operand.valueIn bag = .ok .null) (grouped : Bool) :
    f.segment bag grouped = .ok (op.nullSegment f.negated) := by
  have hwire : Value.wireText .null = "null" := by decide
  have hitem : Value.itemText .null = "null" := by decide
  rw [segment_of_valueIn hnull]
  cases op <;> cases hnegated : f.negated <;> cases grouped <;>
    simp [effective, hop, hnegated, Value.isNull, Value.isList, operandText, hwire, hitem,
      Except.map, Comparison.nullSegment, ColumnTest.label]

end Filter

namespace Predicate

variable {m : Entity} {e : Expr} {f : Filter} {c : Conditions}

/-- What is compared is never a null that is known. -/
theorem isNull_filterOf {op : Comparison} (h : filterOf m e = .ok f) (hop : f.op = .compare op) :
    f.operand.isNull = false := (formed_filterOf h).compared op hop

/-- Every test of the conditions is that of a leaf. -/
theorem exists_leaf {grouped : Bool} (h : conditionsOf m e = .ok c) (hf : c.Includes grouped f) :
    ∃ leaf, filterOf m leaf = .ok f := by
  obtain ⟨hloose, hgroups⟩ := conditionsOf_eq_ok.1 h
  cases grouped with
  | false =>
    obtain ⟨leaf, -, hleaf⟩ := Except.exists_of_mem_mapM hloose hf
    exact ⟨leaf, hleaf⟩
  | true =>
    obtain ⟨g, hg, hf⟩ := hf
    obtain ⟨d, -, hd⟩ := Except.exists_of_mem_mapM hgroups hg
    rw [branches_eq_mapM (flat_branches hd).1] at hd
    obtain ⟨leaf, -, hleaf⟩ := Except.exists_of_mem_mapM hd hf
    exact ⟨leaf, hleaf⟩

/-- A null that is compared is the value of a parameter. It is written as the test for null just
under an equality; under an order it stands as an operand. -/
theorem segment_comparedNull (m : Entity) (e : Expr) (c : Conditions)
    (h : conditionsOf m e = .ok c) (grouped : Bool) (f : Filter) (hf : c.Includes grouped f)
    (op : Comparison) (hop : f.op = .compare op) (bag : Bag)
    (hnull : f.operand.valueIn bag = .ok .null) :
    (∃ name, f.operand = .param name ∧ bag.find? name = some .null) ∧
      f.segment bag grouped = .ok (op.nullSegment f.negated) := by
  refine ⟨?_, Filter.segment_null hop hnull grouped⟩
  obtain ⟨leaf, hleaf⟩ := exists_leaf h hf
  have hknown := isNull_filterOf hleaf hop
  cases hoperand : f.operand with
  | literal v =>
    rw [hoperand] at hknown hnull
    cases hnull
    simp [Operand.isNull, Value.isNull] at hknown
  | param name =>
    rw [hoperand, Operand.valueIn, Bag.valueOf] at hnull
    refine ⟨name, rfl, ?_⟩
    cases hv : bag.find? name with
    | none => simp [hv] at hnull
    | some v =>
      rw [hv] at hnull
      exact congrArg some (Except.ok.inj hnull)

/-- Guests of a host who may be named, or below an age that may be. -/
def acquainted : Expr :=
  .or (.not (.compare .ne (.convert (.column "Host")) (.param "host")))
    (.compare .gt (.param "limit") (.column "Age"))

/-- Without a host, the test for null stands in the group. -/
theorem segment_acquainted :
    conditionsOf guest acquainted = .ok ⟨[], [[⟨"host", .compare .ne, true, .param "host"⟩,
      ⟨"age", .compare .lt, false, .param "limit"⟩]]⟩ ∧
    Filter.segment (.ofList [("host", .null)]) true ⟨"host", .compare .ne, true, .param "host"⟩ =
      .ok "is.null" := by
  have hconditions : conditionsOf guest acquainted =
      .ok ⟨[], [[⟨"host", .compare .ne, true, .param "host"⟩,
        ⟨"age", .compare .lt, false, .param "limit"⟩]]⟩ := by cbv
  refine ⟨hconditions, (segment_comparedNull guest acquainted _ hconditions true _ ?_ .ne rfl
    (.ofList [("host", .null)]) (by cbv)).2⟩
  exact ⟨_, List.mem_singleton.2 rfl, List.mem_cons_self⟩

/-- An order with a null that is known is refused; with one that is named it is written out. -/
theorem segment_ageAboveNull :
    conditionsOf guest (.compare .gt (.column "Age") (.const .null)) = .error .orderedNull ∧
      conditionsOf guest (.compare .gt (.column "Age") (.param "limit")) =
        .ok ⟨[⟨"age", .compare .gt, false, .param "limit"⟩], []⟩ ∧
      Filter.segment (.ofList [("limit", .null)]) false
        ⟨"age", .compare .gt, false, .param "limit"⟩ = .ok "gt.null" := by
  refine ⟨?_, ?_, ?_⟩
  · cbv
  · cbv
  · cbv

end Predicate

end RemoteTable
