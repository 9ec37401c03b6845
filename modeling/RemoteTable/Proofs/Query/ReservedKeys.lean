import Mathlib
import RemoteTable.Proofs.Query.Deferral
import RemoteTable.Proofs.Query.Sources
import RemoteTable.Query.Clauses

/-!
Keys that are not columns. The filters of a query string have their columns as keys, and these share
one space with the keys of its other clauses. The clauses are kept apart from the filters exactly if
no filter that stands by itself has such a key as its column; for all queries of a model that is so
exactly if none of its columns has such a name.
-/

namespace RemoteTable

/-- The clauses of a query string that are not filters. -/
inductive Clause where
  | select
  | groups
  | order
  | offset
  | limit
  deriving DecidableEq

namespace Clause

def key : Clause → String
  | .select => "select"
  | .groups => "or"
  | .order => "order"
  | .offset => "offset"
  | .limit => "limit"

/-- The pairs that a query has for a clause. -/
def pairs (q : Query) (bag : Bag) : Clause → Except Fault (List (String × String))
  | .select => .ok q.selectPairs
  | .groups => q.conditions.groups.mapM (Filter.groupPair bag)
  | .order => .ok q.orderPairs
  | .offset => RowCount.pair bag "offset" q.offset
  | .limit => RowCount.pair bag "limit" q.limit

end Clause

/-- Under the key of a clause a query string has the pairs of this clause and no others. -/
def QueryString.Apart (q : Query) (bag : Bag) (s : QueryString) : Prop :=
  ∀ k : Clause, k.pairs q bag = .ok (s.pairs.filter fun p => p.1 == k.key)

namespace Clause

variable {q : Query} {bag : Bag} {k k' : Clause} {l : List (String × String)}

theorem mem_reserved {key : String} : key ∈ Clauses.reserved ↔ ∃ k : Clause, k.key = key := by
  constructor
  · simp only [Clauses.reserved, List.mem_cons, List.not_mem_nil, or_false]
    rintro (rfl | rfl | rfl | rfl | rfl)
    · exact ⟨.select, rfl⟩
    · exact ⟨.groups, rfl⟩
    · exact ⟨.order, rfl⟩
    · exact ⟨.offset, rfl⟩
    · exact ⟨.limit, rfl⟩
  · rintro ⟨k, rfl⟩
    cases k <;> decide

theorem key_injective : Function.Injective key := by
  intro k k' h
  cases k <;> cases k' <;> first | rfl | exact absurd h (by decide)

theorem key_of_mem_bound {key : String} {b : Option RowCount} {p : String × String}
    (h : RowCount.pair bag key b = .ok l) (hp : p ∈ l) : p.1 = key := by
  cases b with
  | none =>
    cases h
    cases hp
  | some c =>
    obtain ⟨n, -, rfl⟩ := Except.map_eq_ok.1 h
    rw [List.mem_singleton.1 hp]

/-- The pairs of a clause have its key. -/
theorem key_of_mem_pairs {p : String × String} (h : k.pairs q bag = .ok l) (hp : p ∈ l) :
    p.1 = k.key := by
  cases k with
  | select =>
    obtain rfl := Except.ok.inj h
    unfold Query.selectPairs at hp
    split at hp
    · cases hp
    · rw [List.mem_singleton.1 hp]
      rfl
  | groups =>
    obtain ⟨g, -, hg⟩ := Except.exists_of_mem_mapM h hp
    obtain ⟨texts, -, rfl⟩ := Except.map_eq_ok.1 hg
    rfl
  | order =>
    obtain rfl := Except.ok.inj h
    unfold Query.orderPairs at hp
    split at hp
    · cases hp
    · rw [List.mem_singleton.1 hp]
      rfl
  | offset => exact key_of_mem_bound h hp
  | limit => exact key_of_mem_bound h hp

theorem filter_pairs (h : k.pairs q bag = .ok l) (k' : Clause) :
    l.filter (fun p => p.1 == k'.key) = if k = k' then l else [] := by
  split
  next hk =>
    rw [List.filter_eq_self]
    intro p hp
    rw [key_of_mem_pairs h hp, hk, beq_self_eq_true]
  next hk =>
    rw [List.filter_eq_nil_iff]
    intro p hp
    rw [key_of_mem_pairs h hp, beq_iff_eq]
    exact fun heq => hk (key_injective heq)

end Clause

namespace Query

variable {q : Query} {bag : Bag} {s : QueryString}

/-- The keys of filters are their columns. -/
theorem map_fst_filters {fs : List Filter} {pairs : List (String × String)}
    (h : fs.mapM (Filter.pair bag) = .ok pairs) : pairs.map Prod.fst = fs.map Filter.column := by
  induction Except.mapM_eq_ok.1 h with
  | nil => rfl
  | cons hf hfs ih =>
    obtain ⟨text, -, rfl⟩ := Except.map_eq_ok.1 hf
    rw [List.map_cons, List.map_cons, ih (Except.mapM_eq_ok.2 hfs)]

/-- No pair of a filter has the key of a clause. -/
theorem filter_eq_nil_iff {fs : List Filter} {pairs : List (String × String)}
    (h : fs.mapM (Filter.pair bag) = .ok pairs) (k : Clause) :
    pairs.filter (fun p => p.1 == k.key) = [] ↔ ∀ f ∈ fs, f.column ≠ k.key := by
  have hkeys := map_fst_filters h
  rw [List.filter_eq_nil_iff]
  simp only [beq_iff_eq]
  rw [← List.forall_mem_map (f := Prod.fst) (P := fun c => c ≠ k.key), hkeys, List.forall_mem_map]

/-- The clauses of a query string are kept apart unless the column of a filter is one of their
keys. -/
theorem apart_iff (h : q.queryString bag = .ok s) :
    s.Apart q bag ↔ ∀ f ∈ q.conditions.filters, f.column ∉ Clauses.reserved := by
  obtain ⟨filters, groups, offset, limit, hfilters, hgroups, hoffset, hlimit, rfl⟩ :=
    queryString_eq_ok.1 h
  have hselect : Clause.pairs q bag .select = .ok q.selectPairs := rfl
  have horder : Clause.pairs q bag .order = .ok q.orderPairs := rfl
  have hclause (k : Clause) :
      k.pairs q bag = .ok ((q.selectPairs ++ filters ++ groups ++ q.orderPairs ++ offset ++
        limit).filter fun p => p.1 == k.key) ↔ ∀ f ∈ q.conditions.filters, f.column ≠ k.key := by
    -- of the other clauses just the one with this key is left
    rw [← filter_eq_nil_iff hfilters]
    simp only [List.filter_append, Clause.filter_pairs hselect,
      Clause.filter_pairs (k := .groups) hgroups, Clause.filter_pairs horder,
      Clause.filter_pairs (k := .offset) hoffset, Clause.filter_pairs (k := .limit) hlimit]
    cases k with
    | select => simp [Clause.pairs]
    | groups => simp [Clause.pairs, hgroups]
    | order => simp [Clause.pairs]
    | offset => simp [Clause.pairs, hoffset]
    | limit => simp [Clause.pairs, hlimit]
  unfold QueryString.Apart
  simp only [hclause, Clause.mem_reserved]
  constructor
  · rintro hcolumns f hf ⟨k, hk⟩
    exact hcolumns k f hf hk.symm
  · intro hcolumns k f hf hk
    exact hcolumns f hf ⟨k, hk.symm⟩

end Query

namespace Pipeline

variable {m : Entity}

/-- The conditions of a comparison that every column can be put to. -/
def equalsTrue (column : String) : Conditions :=
  ⟨[⟨column, .compare .eq, false, .literal (.bool true)⟩], []⟩

theorem extend_equalsTrue {p column : String} (h : m.column? p = some column) :
    (start m).extend (.filter (.compare .eq (.column p) (.const (.bool true)))) =
      .ok (filtered m (equalsTrue column)) := by
  have hcolumn : m.columnOf p = .ok column := by rw [Entity.columnOf, h]
  have hfilter : Predicate.compareColumn m .eq p (.const (.bool true)) =
      .ok ⟨column, .compare .eq, false, .literal (.bool true)⟩ :=
    Predicate.compareColumn_eq_ok.2 ⟨column, _, hcolumn, .constant rfl, .plain rfl⟩
  refine extend_start_eq_ok.2 ⟨_, ?_, rfl⟩
  rw [Predicate.conditionsOf, Predicate.filterOf,
    Predicate.ofComparison_eq_ok.2 (.inl ⟨p, rfl, hfilter⟩)]
  · rfl
  all_goals simp

/-- The clauses of a query are kept apart from its filters exactly if no filter by itself is about a
column with the key of a clause. They are for all queries of a model exactly if no property of the
model has such a column. -/
theorem apart_queryString (m : Entity) :
    (∀ ops t bag s, (start m).steps ops = (t, []) → t.prepare.query.queryString bag = .ok s →
      (s.Apart t.prepare.query bag ↔
        ∀ f ∈ t.prepare.query.conditions.filters, f.column ∉ Clauses.reserved)) ∧
    ((∀ ops t bag s, (start m).steps ops = (t, []) → t.prepare.query.queryString bag = .ok s →
      s.Apart t.prepare.query bag) ↔
        ∀ p column, m.column? p = some column → column ∉ Clauses.reserved) := by
  refine ⟨fun ops t bag s _ hs => Query.apart_iff hs, ?_, ?_⟩
  · -- every column has a query with no more than a filter on it
    intro h p column hcolumn
    have hops : (start m).steps [.filter (.compare .eq (.column p) (.const (.bool true)))] =
        (filtered m (equalsTrue column), []) := by
      rw [steps, step, extend_equalsTrue hcolumn]
      rfl
    have hs : (filtered m (equalsTrue column)).prepare.query.queryString .empty =
        .ok ⟨[(column, "eq.true")] ++ []⟩ := queryString_filtered rfl rfl
    have hapart := (Query.apart_iff hs).1 (h _ _ _ _ hops hs)
    exact hapart _ List.mem_cons_self
  · intro hcolumns ops t bag s hops hs
    refine (Query.apart_iff hs).2 fun f hf => ?_
    have htest : f ∈ ((start m).steps ops).1.prepare.query.conditions.tests := by
      rw [hops]
      exact List.mem_append_left _ hf
    obtain ⟨p, hp⟩ := (formed_of_start m ops htest).column
    exact hcolumns p f.column hp

theorem column?_mem {p column : String} (h : m.column? p = some column) :
    column ∈ m.fields.map Field.column := by
  obtain ⟨field, hfield, rfl⟩ := Option.map_eq_some_iff.1 h
  exact List.mem_map_of_mem (List.mem_of_find?_eq_some hfield)

/-- Adult guests by name, without those that have been seen. -/
def arrivals : List QueryStep :=
  [.filter (.compare .gte (.column "Age") (.const (.int 18))), .orderBy (.column "Name") .asc,
    .skip (.param "seen")]

/-- No column of a guest has the name of a clause. -/
theorem apart_arrivals : (∀ p column, Predicate.guest.column? p = some column →
      column ∉ Clauses.reserved) ∧
    ∃ t, (start Predicate.guest).steps arrivals = (t, []) ∧
      t.prepare.query.queryString (.ofList [("seen", .int 2)]) =
        .ok ⟨[("age", "gte.18"), ("order", "name.asc"), ("offset", "2")]⟩ ∧
      QueryString.Apart t.prepare.query (.ofList [("seen", .int 2)])
        ⟨[("age", "gte.18"), ("order", "name.asc"), ("offset", "2")]⟩ := by
  have hcolumns : ∀ p column, Predicate.guest.column? p = some column →
      column ∉ Clauses.reserved := by
    intro p column h
    have hall : ∀ c ∈ Predicate.guest.fields.map Field.column, c ∉ Clauses.reserved := by decide
    exact hall column (column?_mem h)
  let t := ((start Predicate.guest).steps arrivals).1
  have hops : (start Predicate.guest).steps arrivals = (t, []) := by cbv
  have hs : t.prepare.query.queryString (.ofList [("seen", .int 2)]) =
      .ok ⟨[("age", "gte.18"), ("order", "name.asc"), ("offset", "2")]⟩ := by cbv
  exact ⟨hcolumns, t, hops, hs, (apart_queryString Predicate.guest).2.2 hcolumns _ _ _ _ hops hs⟩

/-- The dishes of a menu and their places on it. -/
def dish : Entity :=
  ⟨"Dish", "dishes", [.ofName "Name" .text, .ofName "Order" .int32], [], []⟩

/-- A filter on a column that is called like the ordering is taken for one. -/
theorem not_apart_dish : ∃ t,
    (start dish).steps [.filter (.compare .eq (.column "Order") (.const (.int 1)))] = (t, []) ∧
      t.prepare.query.queryString .empty = .ok ⟨[("order", "eq.1")]⟩ ∧
      Clause.pairs t.prepare.query .empty .order = .ok [] ∧
      ¬ QueryString.Apart t.prepare.query .empty ⟨[("order", "eq.1")]⟩ := by
  let t := ((start dish).steps
    [.filter (.compare .eq (.column "Order") (.const (.int 1)))]).1
  have hpairs : Clause.pairs t.prepare.query .empty .order = .ok [] := by cbv
  refine ⟨t, by cbv, by cbv, hpairs, fun hapart => ?_⟩
  have horder := hapart .order
  rw [hpairs] at horder
  exact absurd (Except.ok.inj horder) (by decide)

end Pipeline

end RemoteTable
