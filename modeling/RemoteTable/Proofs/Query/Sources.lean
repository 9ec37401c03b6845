import Mathlib
import RemoteTable.Proofs.Query.Acceptance
import RemoteTable.Proofs.Query.NullOperands

/-!
Where the tests of a query come from, and where they go. Every test was put there by a predicate
that was accepted, so it is about a column of the model, with an operand that is known to suit it or
that is named for later; no other operator adds a test or changes one. In the query string the tests
stand among the pairs of the other clauses.
-/

namespace RemoteTable

/-- All tests, those by themselves and those in groups. -/
def Conditions.tests (c : Conditions) : List Filter := c.filters ++ c.groups.flatten

namespace Conditions

variable {a b c : Conditions} {f : Filter}

theorem mem_tests : f ∈ c.tests ↔ ∃ grouped, c.Includes grouped f := by
  simp [tests, Includes, List.mem_flatten]

theorem mem_tests_append : f ∈ (a ++ b).tests ↔ f ∈ a.tests ∨ f ∈ b.tests := by
  have hfilters : (a ++ b).filters = a.filters ++ b.filters := rfl
  have hgroups : (a ++ b).groups = a.groups ++ b.groups := rfl
  simp only [tests, hfilters, hgroups, List.flatten_append, List.mem_append]
  tauto

end Conditions

/-- A query string is the pairs of the filters among those of the other clauses. -/
theorem Query.queryString_eq_ok {q : Query} {bag : Bag} {s : QueryString} :
    q.queryString bag = .ok s ↔ ∃ filters groups offset limit,
      q.conditions.filters.mapM (Filter.pair bag) = .ok filters ∧
      q.conditions.groups.mapM (Filter.groupPair bag) = .ok groups ∧
      RowCount.pair bag "offset" q.offset = .ok offset ∧
      RowCount.pair bag "limit" q.limit = .ok limit ∧
      s = ⟨q.selectPairs ++ filters ++ groups ++ q.orderPairs ++ offset ++ limit⟩ := by
  simp only [queryString, Except.bind_eq_ok]
  constructor
  · rintro ⟨filters, hfilters, groups, hgroups, offset, hoffset, limit, hlimit, h⟩
    exact ⟨filters, groups, offset, limit, hfilters, hgroups, hoffset, hlimit,
      (Except.ok.inj h).symm⟩
  · rintro ⟨filters, groups, offset, limit, hfilters, hgroups, hoffset, hlimit, rfl⟩
    exact ⟨filters, hfilters, groups, hgroups, offset, hoffset, limit, hlimit, rfl⟩

namespace Predicate

variable {m : Entity} {e : Expr} {f : Filter} {c : Conditions}

theorem formed_conditionsOf (h : conditionsOf m e = .ok c) (hf : f ∈ c.tests) : f.Formed m := by
  obtain ⟨grouped, hf⟩ := Conditions.mem_tests.1 hf
  obtain ⟨leaf, hleaf⟩ := exists_leaf h hf
  exact formed_filterOf hleaf

end Predicate

namespace Pipeline

/-- All tests of a query under construction are about its model. -/
def Formed (t : Pipeline) : Prop := ∀ f ∈ t.query.conditions.tests, f.Formed t.model

variable {t t' : Pipeline} {op : QueryStep}

theorem formed_start (m : Entity) : (start m).Formed := by
  intro f hf
  cases hf

theorem Accepted.model_eq (h : Accepted t op t') : t'.model = t.model := by
  cases h <;> rfl

theorem Accepted.formed (h : Accepted t op t') (ht : t.Formed) : t'.Formed := by
  cases h with
  | filter _ hset =>
    intro f hf
    rcases Conditions.mem_tests_append.1 hf with hf | hf
    · exact ht f hf
    · exact Predicate.formed_conditionsOf hset hf
  | select => exact ht
  | orderBy => exact ht
  | thenBy => exact ht
  | skip => exact ht
  | take => exact ht

/-- An operator is accepted, or the query stays as it is. -/
theorem accepted_or_eq (t : Pipeline) (op : QueryStep) :
    Accepted t op (t.step op).1 ∨ (t.step op).1 = t := by
  unfold step
  cases hop : t.extend op with
  | ok next => exact .inl (accepted_of_extend hop)
  | error reason => exact .inr rfl

theorem steps_cons (t : Pipeline) (op : QueryStep) (ops : List QueryStep) :
    (t.steps (op :: ops)).1 = ((t.step op).1.steps ops).1 := rfl

theorem model_step (t : Pipeline) (op : QueryStep) : (t.step op).1.model = t.model := by
  rcases accepted_or_eq t op with h | h
  · exact h.model_eq
  · rw [h]

theorem formed_step (ht : t.Formed) (op : QueryStep) : (t.step op).1.Formed := by
  rcases accepted_or_eq t op with h | h
  · exact h.formed ht
  · rwa [h]

theorem model_steps (t : Pipeline) (ops : List QueryStep) : (t.steps ops).1.model = t.model := by
  induction ops generalizing t with
  | nil => rfl
  | cons op ops ih => rw [steps_cons, ih, model_step]

/-- However a query is put together, it tests columns of its model with operands that suit them. -/
theorem formed_steps (ht : t.Formed) (ops : List QueryStep) : (t.steps ops).1.Formed := by
  induction ops generalizing t with
  | nil => exact ht
  | cons op ops ih =>
    rw [steps_cons]
    exact ih (formed_step ht op)

/-- The tests of the query that runs. -/
theorem formed_of_start (m : Entity) (ops : List QueryStep) {f : Filter}
    (hf : f ∈ ((start m).steps ops).1.prepare.query.conditions.tests) : f.Formed m := by
  have hformed := formed_steps (formed_start m) ops f hf
  rwa [model_steps] at hformed

end Pipeline

end RemoteTable
