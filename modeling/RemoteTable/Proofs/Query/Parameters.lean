import Mathlib
import RemoteTable.Load.Rows
import RemoteTable.Proofs.Client.LocalFaults
import RemoteTable.Proofs.Load.Pass
import RemoteTable.Proofs.Query.Sources

/-!
The parameters of a query. A query that was accepted can be written whenever the values of its
parameters suit the tests and the page bounds that name them, so one that names none can always be.
Where one of them has no value nothing is sent. No other values matter.
-/

namespace RemoteTable

/-- The parameter that an operand stands for. -/
def Operand.param? : Operand → Option String
  | .literal _ => none
  | .param name => some name

/-- The parameter that a number of rows stands for. -/
def RowCount.param? : RowCount → Option String
  | .known _ => none
  | .param name => some name

/-- The integer that a value is. -/
def Value.integer? : Value → Option Int
  | .int n => some n.toInt
  | .uint n => some n.toNat
  | _ => none

/-- A value that suits a test: any for a list of values, else none that is a list, and null just for
an equality. -/
def Filter.SuitedBy (f : Filter) (v : Value) : Prop :=
  f.op = .oneOf ∨ v.isList = false ∧ (v = .null → f.op = .compare .eq ∨ f.op = .compare .ne)

namespace Query

/-- The page bounds. -/
def bounds (q : Query) : List RowCount := q.offset.toList ++ q.limit.toList

/-- The parameters that are named by tests, in groups or not, and by page bounds. -/
def parameters (q : Query) : List String :=
  q.conditions.tests.filterMap (fun f => f.operand.param?) ++ q.bounds.filterMap RowCount.param?

/-- All parameters have values. Those of tests suit the tests, and those of page bounds are integers
that are not negative. -/
structure SuitedBy (q : Query) (bag : Bag) : Prop where
  tests : ∀ f ∈ q.conditions.tests, ∀ name, f.operand.param? = some name →
    ∃ v, bag.find? name = some v ∧ f.SuitedBy v
  bounds : ∀ b ∈ q.bounds, ∀ name, b.param? = some name →
    ∃ v n, bag.find? name = some v ∧ v.integer? = some n ∧ 0 ≤ n

end Query

/-- What comes of a query that fails before it is sent: no event, no request, and no row. -/
structure PreparedQuery.Refused (q : PreparedQuery) (bag : Bag) (f : Fault) : Prop where
  request : ∀ e, q.request e bag = .error f
  /-- The first call on a cursor tells of the fault; after it there is nothing more. -/
  calls : ∀ {σ : Type} (t : Transport σ) (lose : σ → Request → σ) (e : Endpoint) (s : σ)
    (call : Cursor.Call) (calls : List Cursor.Call),
    Cursor.turns t lose (.start q e bag) s (call :: calls) =
      ⟨some (some (.error f)), [], .exhausted⟩ :: calls.map fun _ => ⟨some none, [], .exhausted⟩
  fetch : ∀ {σ : Type} (t : Transport σ) (e : Endpoint) (s : σ),
    Load.fetch t e q bag s = (.error f, [], s)
  fetchAs : ∀ {σ α : Type} (d : Delivery) (target : Target α) (t : Transport σ) (e : Endpoint)
    (s : σ), Load.fetchAs d target t e q bag s = (.error f, [], s)

variable {bag bag' : Bag} {f : Filter} {v : Value} {name : String}

namespace Operand

variable {o : Operand}

theorem param?_eq_some : o.param? = some name ↔ o = .param name := by
  cases o <;> simp [param?]

theorem valueIn_congr (h : ∀ name, o.param? = some name → bag.find? name = bag'.find? name) :
    o.valueIn bag = o.valueIn bag' := by
  cases o with
  | literal v => rfl
  | param name => simp only [valueIn, Bag.valueOf, h name rfl]

/-- An operand has a value exactly if its parameter does. -/
theorem exists_valueIn : (∃ v, o.valueIn bag = .ok v) ↔
    ∀ name, o.param? = some name → ∃ v, bag.find? name = some v := by
  cases o with
  | literal v => simp [valueIn, param?]
  | param name => cases hv : bag.find? name <;> simp [valueIn, Bag.valueOf, param?, hv]

end Operand

namespace RowCount

variable {b : RowCount}

theorem param?_eq_some : b.param? = some name ↔ b = .param name := by
  cases b <;> simp [param?]

theorem valueIn_congr (h : ∀ name, b.param? = some name → bag.find? name = bag'.find? name) :
    b.valueIn bag = b.valueIn bag' := by
  cases b with
  | known n => rfl
  | param name => simp only [valueIn, Bag.valueOf, h name rfl]

/-- An integer that is not negative is a number of rows. -/
theorem exists_asCount? {n : Int} (hv : v.integer? = some n) (hn : 0 ≤ n) :
    ∃ count, v.asCount? = some count := by
  cases v with
  | int k =>
    obtain rfl := Option.some.inj hv
    exact ⟨_, if_pos hn⟩
  | uint k => exact ⟨k, rfl⟩
  | _ => cases hv

theorem exists_valueIn (h : ∀ name, b.param? = some name →
    ∃ v n, bag.find? name = some v ∧ v.integer? = some n ∧ 0 ≤ n) :
    ∃ n, b.valueIn bag = .ok n := by
  cases b with
  | known n => exact ⟨n, rfl⟩
  | param name =>
    obtain ⟨v, n, hv, hn, hpos⟩ := h name rfl
    obtain ⟨count, hcount⟩ := exists_asCount? hn hpos
    exact ⟨count, by simp [valueIn, Bag.valueOf, hv, hcount, bind, Except.bind]⟩

theorem find?_of_valueIn {n : UInt64} (h : b.valueIn bag = .ok n) (hb : b.param? = some name) :
    ∃ v, bag.find? name = some v := by
  obtain rfl := param?_eq_some.1 hb
  cases hv : bag.find? name with
  | some v => exact ⟨v, rfl⟩
  | none => simp [valueIn, Bag.valueOf, hv, bind, Except.bind] at h

theorem exists_pair {key : String} {b : Option RowCount} :
    (∃ pairs, RowCount.pair bag key b = .ok pairs) ↔ ∀ c ∈ b, ∃ n, c.valueIn bag = .ok n := by
  cases b with
  | none => simp [pair]
  | some c =>
    simp only [pair, Except.map_eq_ok, Option.mem_some_iff, forall_eq']
    constructor
    · rintro ⟨pairs, n, hn, -⟩
      exact ⟨n, hn⟩
    · rintro ⟨n, hn⟩
      exact ⟨_, n, hn, rfl⟩

end RowCount

namespace Filter

theorem segment_congr (h : ∀ name, f.operand.param? = some name → bag.find? name = bag'.find? name)
    (grouped : Bool) : f.segment bag grouped = f.segment bag' grouped := by
  rw [segment, Operand.valueIn_congr h, segment]

/-- What suits a test that was accepted can be written in it. -/
theorem Formed.takes {m : Entity} (h : f.Formed m) (hname : f.operand.param? = some name)
    (hv : f.SuitedBy v) : f.Takes v := by
  -- a test for null or a truth value takes less, but it names nothing for later
  have hop := h.named name (Operand.param?_eq_some.1 hname)
  unfold Takes
  rcases hv with hone | ⟨hlist, -⟩
  · simp [hone]
  · split
    next => trivial
    next his => exact absurd his hop
    next => exact hlist

theorem Formed.exists_segment {m : Entity} (h : f.Formed m)
    (hvalues : ∀ name, f.operand.param? = some name → ∃ v, bag.find? name = some v ∧ f.SuitedBy v)
    (grouped : Bool) : ∃ s, f.segment bag grouped = .ok s := by
  cases hoperand : f.operand with
  | literal v =>
    have hv : f.operand.valueIn bag = .ok v := by rw [hoperand, Operand.valueIn]
    exact Filter.exists_segment hv (h.known v hoperand) grouped
  | param name =>
    have hname : f.operand.param? = some name := Operand.param?_eq_some.2 hoperand
    obtain ⟨v, hfind, hsuits⟩ := hvalues name hname
    have hv : f.operand.valueIn bag = .ok v := by
      rw [hoperand, Operand.valueIn, Bag.valueOf, hfind]
    exact Filter.exists_segment hv (h.takes hname hsuits) grouped

theorem exists_pair : (∃ p, f.pair bag = .ok p) ↔ ∃ s, f.segment bag false = .ok s := by
  simp [pair, Except.map_eq_ok]

theorem exists_branch : (∃ s, f.branch bag = .ok s) ↔ ∃ s, f.segment bag true = .ok s := by
  simp [branch, Except.map_eq_ok]

theorem exists_groupPair_iff {g : List Filter} :
    (∃ p, groupPair bag g = .ok p) ↔ ∀ f ∈ g, ∃ s, f.segment bag true = .ok s := by
  simp only [← exists_branch, ← Except.exists_mapM_iff, groupPair, Except.map_eq_ok]
  constructor
  · rintro ⟨p, l, hl, -⟩
    exact ⟨l, hl⟩
  · rintro ⟨l, hl⟩
    exact ⟨_, l, hl, rfl⟩

end Filter

namespace Query

variable {q : Query}

theorem mem_bounds {b : RowCount} : b ∈ q.bounds ↔ q.offset = some b ∨ q.limit = some b := by
  simp [bounds]

theorem mem_parameters : name ∈ q.parameters ↔
    (∃ f ∈ q.conditions.tests, f.operand.param? = some name) ∨
      ∃ b ∈ q.bounds, b.param? = some name := by
  simp [parameters]

/-- A query can be written exactly if its tests can be and its page bounds have values. -/
theorem exists_queryString_iff : (∃ s, q.queryString bag = .ok s) ↔
    (∀ grouped f, q.conditions.Includes grouped f → ∃ s, f.segment bag grouped = .ok s) ∧
      q.Bounded bag := by
  have hfilters : (∃ l, q.conditions.filters.mapM (Filter.pair bag) = .ok l) ↔
      ∀ f, q.conditions.Includes false f → ∃ s, f.segment bag false = .ok s := by
    simp only [Except.exists_mapM_iff, Filter.exists_pair]
    rfl
  have hgroups : (∃ l, q.conditions.groups.mapM (Filter.groupPair bag) = .ok l) ↔
      ∀ f, q.conditions.Includes true f → ∃ s, f.segment bag true = .ok s := by
    simp only [Except.exists_mapM_iff, Filter.exists_groupPair_iff]
    constructor
    · rintro h f ⟨g, hg, hf⟩
      exact h g hg f hf
    · intro h g hg f hf
      exact h f ⟨g, hg, hf⟩
  have hbounds : q.Bounded bag ↔ (∃ l, RowCount.pair bag "offset" q.offset = .ok l) ∧
      ∃ l, RowCount.pair bag "limit" q.limit = .ok l := by
    simp only [Bounded, RowCount.exists_pair, or_imp, forall_and, Option.mem_def]
  rw [Bool.forall_bool, ← hfilters, ← hgroups, hbounds]
  simp only [queryString_eq_ok]
  constructor
  · rintro ⟨s, filters, groups, offset, limit, hfilters, hgroups, hoffset, hlimit, -⟩
    exact ⟨⟨⟨filters, hfilters⟩, groups, hgroups⟩, ⟨offset, hoffset⟩, limit, hlimit⟩
  · rintro ⟨⟨⟨filters, hfilters⟩, groups, hgroups⟩, ⟨offset, hoffset⟩, limit, hlimit⟩
    exact ⟨_, filters, groups, offset, limit, hfilters, hgroups, hoffset, hlimit, rfl⟩

/-- A query of formed tests can be written with values that suit it. -/
theorem exists_queryString {m : Entity} (hformed : ∀ f ∈ q.conditions.tests, f.Formed m)
    (h : q.SuitedBy bag) : ∃ s, q.queryString bag = .ok s := by
  refine exists_queryString_iff.2 ⟨fun grouped f hf => ?_, fun b hb => ?_⟩
  · have htest := Conditions.mem_tests.2 ⟨grouped, hf⟩
    exact (hformed f htest).exists_segment (h.tests f htest) grouped
  · exact RowCount.exists_valueIn (h.bounds b (mem_bounds.2 hb))

theorem suitedBy_of_parameters_eq_nil (h : q.parameters = []) (bag : Bag) : q.SuitedBy bag := by
  constructor
  · intro f hf name hname
    have hmem := mem_parameters.2 (.inl ⟨f, hf, hname⟩)
    rw [h] at hmem
    cases hmem
  · intro b hb name hname
    have hmem := mem_parameters.2 (.inr ⟨b, hb, hname⟩)
    rw [h] at hmem
    cases hmem

/-- Where a query can be written all its parameters have values. -/
theorem find?_of_queryString {s : QueryString} (h : q.queryString bag = .ok s)
    (hname : name ∈ q.parameters) : ∃ v, bag.find? name = some v := by
  obtain ⟨htests, hbounds⟩ := exists_queryString_iff.1 ⟨s, h⟩
  rcases mem_parameters.1 hname with ⟨f, hf, hoperand⟩ | ⟨b, hb, hcount⟩
  · obtain ⟨grouped, hf⟩ := Conditions.mem_tests.1 hf
    obtain ⟨segment, hsegment⟩ := htests grouped f hf
    obtain ⟨v, hv, -⟩ := Except.bind_eq_ok.1 hsegment
    exact Operand.exists_valueIn.1 ⟨v, hv⟩ name hoperand
  · obtain ⟨n, hn⟩ := hbounds b (mem_bounds.1 hb)
    exact RowCount.find?_of_valueIn hn hcount

/-- A query is written alike with values that agree on its parameters. -/
theorem queryString_congr (h : ∀ name ∈ q.parameters, bag.find? name = bag'.find? name) :
    q.queryString bag = q.queryString bag' := by
  have hsegment (grouped grouped' : Bool) (f : Filter) (hf : q.conditions.Includes grouped f) :
      f.segment bag grouped' = f.segment bag' grouped' :=
    Filter.segment_congr (fun name hname => h name (mem_parameters.2 (.inl
      ⟨f, Conditions.mem_tests.2 ⟨grouped, hf⟩, hname⟩))) grouped'
  have hvalue (b : RowCount) (hb : b ∈ q.bounds) : b.valueIn bag = b.valueIn bag' :=
    RowCount.valueIn_congr fun name hname => h name (mem_parameters.2 (.inr ⟨b, hb, hname⟩))
  have hfilters : q.conditions.filters.mapM (Filter.pair bag) =
      q.conditions.filters.mapM (Filter.pair bag') :=
    Except.mapM_congr fun f hf => by rw [Filter.pair, hsegment false false f hf, Filter.pair]
  have hgroups : q.conditions.groups.mapM (Filter.groupPair bag) =
      q.conditions.groups.mapM (Filter.groupPair bag') := by
    refine Except.mapM_congr fun g hg => ?_
    have hbranches : g.mapM (Filter.branch bag) = g.mapM (Filter.branch bag') :=
      Except.mapM_congr fun f hf => by
        rw [Filter.branch, hsegment true true f ⟨g, hg, hf⟩, Filter.branch]
    rw [Filter.groupPair, hbranches, Filter.groupPair]
  have hpair (key : String) (b : Option RowCount) (hb : ∀ c ∈ b, c ∈ q.bounds) :
      RowCount.pair bag key b = RowCount.pair bag' key b := by
    cases b with
    | none => rfl
    | some c => rw [RowCount.pair, hvalue c (hb c rfl), RowCount.pair]
  rw [queryString, hfilters, hgroups, hpair "offset" q.offset fun c hc => mem_bounds.2 (.inl hc),
    hpair "limit" q.limit fun c hc => mem_bounds.2 (.inr hc), queryString]

end Query

/-- Without a query string there is no request, and nothing is sent. -/
theorem PreparedQuery.refused_of_queryString {q : PreparedQuery} {fault : Fault}
    (h : q.query.queryString bag = .error fault) : q.Refused bag fault := by
  have hrequest (e : Endpoint) : q.request e bag = .error fault := by
    rw [request, h]
    rfl
  have hcursor (e : Endpoint) : (Cursor.start q e bag).request = .error fault := hrequest e
  have hfetch {σ : Type} (t : Transport σ) (e : Endpoint) (s : σ) :
      (Cursor.start q e bag).fetch t s = (.error fault, [], s) := by
    simp only [Cursor.fetch, hcursor]
  refine ⟨hrequest, ?_, ?_, ?_⟩
  · intro σ t lose e s call calls
    rw [Cursor.turns, Cursor.turn_refused (c := .start q e bag) (.inl rfl) (hcursor e)]
    exact congrArg _ (Cursor.turns_exhausted rfl calls)
  · intro σ t e s
    simp only [Load.fetch, Load.drain, hfetch]
  · intro σ α d target t e s
    simp only [Load.fetchAs, Load.drain, hfetch]

namespace Pipeline

/-- A query that is accepted depends on its parameters alone: with values that suit them it is
written, and without parameters it always is; where one has no value nothing is sent; with values
that agree on them it is written alike and has the same request to every endpoint. -/
theorem queryString_of_parameters (m : Entity) (ops : List QueryStep) (t : Pipeline)
    (h : (start m).steps ops = (t, [])) (bag : Bag) :
    (t.prepare.query.SuitedBy bag → ∃ s, t.prepare.query.queryString bag = .ok s) ∧
    (t.prepare.query.parameters = [] → ∃ s, t.prepare.query.queryString bag = .ok s) ∧
    (∀ name ∈ t.prepare.query.parameters, bag.find? name = none →
      ∃ fault, fault.kind = .unsupported ∧ t.prepare.query.queryString bag = .error fault ∧
        t.prepare.Refused bag fault) ∧
    ∀ bag', (∀ name ∈ t.prepare.query.parameters, bag.find? name = bag'.find? name) →
      t.prepare.query.queryString bag = t.prepare.query.queryString bag' ∧
        ∀ e, t.prepare.request e bag = t.prepare.request e bag' := by
  have hformed : ∀ f ∈ t.prepare.query.conditions.tests, f.Formed m := by
    intro f hf
    refine formed_of_start m ops ?_
    rwa [h]
  have hbuilt (hsuits : t.prepare.query.SuitedBy bag) := Query.exists_queryString hformed hsuits
  refine ⟨hbuilt, fun hnone => hbuilt (Query.suitedBy_of_parameters_eq_nil hnone bag), ?_, ?_⟩
  · intro name hname hunbound
    cases hs : t.prepare.query.queryString bag with
    | ok s =>
      obtain ⟨v, hv⟩ := Query.find?_of_queryString hs hname
      rw [hunbound] at hv
      cases hv
    | error fault =>
      exact ⟨fault, Query.failsBy_queryString bag _ fault hs, rfl,
        PreparedQuery.refused_of_queryString hs⟩
  · intro bag' hagree
    have hs := Query.queryString_congr hagree
    refine ⟨hs, fun e => ?_⟩
    rw [PreparedQuery.request, hs, PreparedQuery.request]

/-- Some guests without a host whom one names, or of some ages. -/
def strangers : List QueryStep :=
  [.filter (.or (.compare .ne (.column "Host") (.param "host"))
    (.not (.call .contains (some (.param "ages")) [.column "Age"]))), .take (.param "n")]

def strangersBag : Bag :=
  .ofList [("ages", .list [.int 18, .null]), ("host", .null), ("n", .int 2)]

/-- With all values the query is written, null included; without the number of guests it is not. -/
theorem queryString_strangers : ∃ t, (start Predicate.guest).steps strangers = (t, []) ∧
    t.prepare.query.SuitedBy strangersBag ∧
    (∃ s, t.prepare.query.queryString strangersBag = .ok s) ∧
    ∃ fault, fault.kind = .unsupported ∧
      t.prepare.Refused (.ofList [("ages", .list []), ("host", .text "Kim")]) fault := by
  let t := ((start Predicate.guest).steps strangers).1
  have hops : (start Predicate.guest).steps strangers = (t, []) := by cbv
  have htests : t.prepare.query.conditions.tests =
      [⟨"host", .compare .ne, false, .param "host"⟩, ⟨"age", .oneOf, true, .param "ages"⟩] := by
    cbv
  have hbounds : t.prepare.query.bounds = [.param "n"] := by cbv
  have hsuits : t.prepare.query.SuitedBy strangersBag := by
    constructor
    · rw [htests, List.forall_mem_cons, List.forall_mem_singleton]
      constructor
      · rintro name ⟨⟩
        exact ⟨.null, by cbv, .inr ⟨rfl, fun _ => .inr rfl⟩⟩
      · rintro name ⟨⟩
        exact ⟨.list [.int 18, .null], by cbv, .inl rfl⟩
    · rw [hbounds, List.forall_mem_singleton]
      rintro name ⟨⟩
      exact ⟨.int 2, 2, by cbv, by decide, by decide⟩
  have hn : "n" ∈ t.prepare.query.parameters :=
    Query.mem_parameters.2 (.inr ⟨.param "n", by rw [hbounds]; exact List.mem_cons_self, rfl⟩)
  obtain ⟨hbuilt, -, -, -⟩ :=
    queryString_of_parameters Predicate.guest strangers t hops strangersBag
  obtain ⟨-, -, hunbound, -⟩ := queryString_of_parameters Predicate.guest strangers t hops
    (.ofList [("ages", .list []), ("host", .text "Kim")])
  obtain ⟨fault, hkind, -, hrefused⟩ := hunbound "n" hn (by cbv)
  exact ⟨t, hops, hsuits, hbuilt hsuits, fault, hkind, hrefused⟩

end Pipeline

end RemoteTable
