import RemoteTable.Proofs.Outcome
import RemoteTable.Proofs.Query.Evaluation

/-!
Operators that are accepted: what each does to a query under construction. What is accepted after
the page has been cut or the rows have been shaped is little, and counts that are named for later
are never taken together.
-/

namespace RemoteTable

/-- Nothing is cut off the rows of the query. -/
def Query.Unpaged (q : Query) : Prop := q.offset = none ∧ q.limit = none

namespace Pipeline

variable {bag : Bag}

/-- Only counts that are known are taken together. -/
theorem widenedOffset_eq_ok {offset : Option RowCount} {n o : RowCount}
    (h : widenedOffset offset n = .ok o) : (offset = none ∧ o = n) ∨
      ∃ a b, offset = some (.known a) ∧ n = .known b ∧ o = .known (addSaturating a b) := by
  unfold widenedOffset at h
  split at h
  next => exact .inl ⟨rfl, (Except.ok.inj h).symm⟩
  next a b => exact .inr ⟨a, b, rfl, rfl, (Except.ok.inj h).symm⟩
  next => simp at h

theorem narrowedLimit_eq_ok {limit l : Option RowCount} {n : RowCount}
    (h : narrowedLimit limit n = .ok l) : (limit = none ∧ l = none) ∨
      ∃ a b, limit = some (.known a) ∧ n = .known b ∧ l = some (.known (subSaturating a b)) := by
  unfold narrowedLimit at h
  split at h
  next => exact .inl ⟨rfl, (Except.ok.inj h).symm⟩
  next a b => exact .inr ⟨a, b, rfl, rfl, (Except.ok.inj h).symm⟩
  next => simp at h

theorem tightenedLimit_eq_ok {limit : Option RowCount} {n l : RowCount}
    (h : tightenedLimit limit n = .ok l) : (limit = none ∧ l = n) ∨
      ∃ a b, limit = some (.known a) ∧ n = .known b ∧ l = .known (min a b) := by
  unfold tightenedLimit at h
  split at h
  next => exact .inl ⟨rfl, (Except.ok.inj h).symm⟩
  next a b => exact .inr ⟨a, b, rfl, rfl, (Except.ok.inj h).symm⟩
  next => simp at h

theorem checkUnshaped_eq_ok {t : Pipeline} {u : Unit} (h : t.checkUnshaped = .ok u) :
    t.projection = none := by
  unfold checkUnshaped at h
  cases hp : t.projection <;> simp [hp] at h ⊢

theorem checkUnpaged_eq_ok {t : Pipeline} {u : Unit} (h : t.checkUnpaged = .ok u) :
    t.query.Unpaged := by
  unfold checkUnpaged at h
  unfold Query.Unpaged
  cases ho : t.query.offset <;> cases hl : t.query.limit <;> simp [ho, hl] at h ⊢

/-- What an operator that is accepted does to a query. -/
inductive Accepted : Pipeline → QueryStep → Pipeline → Prop where
  | filter {m : Entity} {q : Query} {e : Expr} {set : Conditions} (hpage : q.Unpaged)
      (hset : Predicate.conditionsOf m e = .ok set) :
      Accepted ⟨m, q, none⟩ (.filter e) ⟨m, { q with conditions := q.conditions ++ set }, none⟩
  | select {m : Entity} {q : Query} {p : Projection} {prepared : PreparedProjection}
      (hp : p.prepare m = .ok prepared) :
      Accepted ⟨m, q, none⟩ (.select p) ⟨m, q, some prepared⟩
  | orderBy {m : Entity} {q : Query} {key : Expr} {d : Direction} {column : String}
      (hpage : q.Unpaged) (hkey : keyColumn m key = .ok column) :
      Accepted ⟨m, q, none⟩ (.orderBy key d) ⟨m, { q with order := [⟨column, d⟩] }, none⟩
  | thenBy {m : Entity} {q : Query} {key : Expr} {d : Direction} {column : String}
      (hpage : q.Unpaged) (horder : q.order.isEmpty = false) (hkey : keyColumn m key = .ok column) :
      Accepted ⟨m, q, none⟩ (.thenBy key d)
        ⟨m, { q with order := q.order ++ [⟨column, d⟩] }, none⟩
  | skip {t : Pipeline} {n offset : RowCount} {limit : Option RowCount}
      (hlimit : narrowedLimit t.query.limit n = .ok limit)
      (hoffset : widenedOffset t.query.offset n = .ok offset) :
      Accepted t (.skip n)
        { t with query := { t.query with offset := some offset, limit := limit } }
  | take {t : Pipeline} {n limit : RowCount}
      (hlimit : tightenedLimit t.query.limit n = .ok limit) :
      Accepted t (.take n) { t with query := { t.query with limit := some limit } }

theorem accepted_of_extend {t t' : Pipeline} {op : QueryStep} (hop : t.extend op = .ok t') :
    Accepted t op t' := by
  have hunshaped : ∀ {u}, t.checkUnshaped = .ok u → t = ⟨t.model, t.query, none⟩ := by
    intro u hu
    rw [← checkUnshaped_eq_ok hu]
  cases op with
  | filter e =>
    obtain ⟨_, hshape, hop⟩ := Except.bind_eq_ok.1 hop
    obtain ⟨_, hpage, hop⟩ := Except.bind_eq_ok.1 hop
    obtain ⟨set, hset, hop⟩ := Except.bind_eq_ok.1 hop
    obtain rfl := Except.ok.inj hop
    rw [hunshaped hshape]
    exact .filter (checkUnpaged_eq_ok hpage) hset
  | select p =>
    obtain ⟨_, hshape, hop⟩ := Except.bind_eq_ok.1 hop
    obtain ⟨prepared, hp, hop⟩ := Except.bind_eq_ok.1 hop
    obtain rfl := Except.ok.inj hop
    rw [hunshaped hshape]
    exact .select hp
  | orderBy key d =>
    obtain ⟨_, hshape, hop⟩ := Except.bind_eq_ok.1 hop
    obtain ⟨_, hpage, hop⟩ := Except.bind_eq_ok.1 hop
    obtain ⟨column, hkey, hop⟩ := Except.bind_eq_ok.1 hop
    obtain rfl := Except.ok.inj hop
    rw [hunshaped hshape]
    exact .orderBy (checkUnpaged_eq_ok hpage) hkey
  | thenBy key d =>
    obtain ⟨_, hshape, hop⟩ := Except.bind_eq_ok.1 hop
    obtain ⟨_, hpage, hop⟩ := Except.bind_eq_ok.1 hop
    split at hop
    next => simp at hop
    next horder =>
      obtain ⟨column, hkey, hop⟩ := Except.bind_eq_ok.1 hop
      obtain rfl := Except.ok.inj hop
      rw [hunshaped hshape]
      exact .thenBy (checkUnpaged_eq_ok hpage) (by simpa using horder) hkey
  | skip n =>
    obtain ⟨limit, hlimit, hop⟩ := Except.bind_eq_ok.1 hop
    obtain ⟨offset, hoffset, hop⟩ := Except.bind_eq_ok.1 hop
    obtain rfl := Except.ok.inj hop
    exact .skip hlimit hoffset
  | take n =>
    obtain ⟨limit, hlimit, hop⟩ := Except.bind_eq_ok.1 hop
    obtain rfl := Except.ok.inj hop
    exact .take hlimit
  | join => simp [Pipeline.extend] at hop
  | groupBy => simp [Pipeline.extend] at hop
  | distinct => simp [Pipeline.extend] at hop
  | aggregate name => simp [Pipeline.extend] at hop

/-- A bound without a value cannot be taken together with another, so it stays in the query. -/
theorem Accepted.bounded {t t' : Pipeline} {op : QueryStep} (h : Accepted t op t')
    (hb : t'.query.Bounded bag) : t.query.Bounded bag := by
  cases h with
  | filter => exact hb
  | select => exact hb
  | orderBy => exact hb
  | thenBy => exact hb
  | @skip _ n _ _ hlimit hoffset =>
    rintro b (hq | hq)
    · rw [hq] at hoffset
      cases b with
      | known x => exact ⟨x, rfl⟩
      | param name => simp [widenedOffset] at hoffset
    · rw [hq] at hlimit
      cases b with
      | known x => exact ⟨x, rfl⟩
      | param name => simp [narrowedLimit] at hlimit
  | @take _ n _ hlimit =>
    rintro b (hq | hq)
    · exact hb b (.inl hq)
    · rw [hq] at hlimit
      cases b with
      | known x => exact ⟨x, rfl⟩
      | param name => simp [tightenedLimit] at hlimit

theorem steps_cons_eq {t t' : Pipeline} {op : QueryStep} {ops : List QueryStep}
    (h : t.steps (op :: ops) = (t', [])) :
    ∃ next, t.extend op = .ok next ∧ next.steps ops = (t', []) := by
  unfold steps step at h
  cases hop : t.extend op with
  | error reason => simp [hop] at h
  | ok next => exact ⟨next, rfl, by simpa [hop] using h⟩

theorem bounded_of_steps {t t' : Pipeline} {ops : List QueryStep} (h : t.steps ops = (t', []))
    (hb : t'.query.Bounded bag) : t.query.Bounded bag := by
  induction ops generalizing t with
  | nil =>
    obtain ⟨rfl, -⟩ := Prod.mk.inj h
    exact hb
  | cons op ops ih =>
    obtain ⟨next, hop, h⟩ := steps_cons_eq h
    exact (accepted_of_extend hop).bounded (ih h)

end Pipeline

end RemoteTable
