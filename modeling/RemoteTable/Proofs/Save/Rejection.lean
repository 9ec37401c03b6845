import Mathlib
import RemoteTable.Proofs.Save.Run

/-!
Batches that are rejected before anything is sent. Whatever makes a request impossible is found
while the batch is planned, as the properties that it depends on stay as they are; only a key that
is a list is not noticed until its entry has its turn.
-/

namespace RemoteTable

namespace Entity

variable {m : Entity} {e e' : Entry}

/-- Rows are found by what is stored. -/
theorem rowFilters_congr (hstored : ∀ p, e'.stored p = e.stored p) :
    m.rowFilters e' = m.rowFilters e := by
  have h : m.rowFilter e' = m.rowFilter e := funext fun p => by simp only [rowFilter, hstored]
  simp only [rowFilters, h]

theorem writeOf_congr (hstate : e'.state = e.state) (hstored : ∀ p, e'.stored p = e.stored p) :
    m.writeOf e' = m.writeOf e := by
  simp only [writeOf, hstate, rowFilters_congr hstored]

/-- The test for a stored value of the key. -/
theorem rowFilter_eq_ok {p : String} {f : Filter} (h : m.rowFilter e p = .ok f) :
    ∃ column, m.column? p = some column ∧ (e.stored p).isNull = false ∧
      f = ⟨column, .compare .eq, false, .literal (e.stored p)⟩ := by
  unfold rowFilter at h
  split at h
  · simp at h
  next column hcolumn =>
    split at h
    · simp at h
    next hnull =>
      cases h
      exact ⟨column, hcolumn, by simpa using hnull, rfl⟩

theorem mem_rowFilters {filters : List Filter} (h : m.rowFilters e = .ok filters) {f : Filter}
    (hf : f ∈ filters) : ∃ p ∈ m.key, m.rowFilter e p = .ok f := by
  unfold rowFilters at h
  split at h
  · exact Except.exists_of_mem_mapM h hf
  · simp at h

/-- An equality with a value fails only for a list. -/
theorem pair_eq_error {bag : Bag} {column : String} {v : Value} {fault : Fault}
    (hnull : v.isNull = false)
    (h : Filter.pair bag ⟨column, .compare .eq, false, .literal v⟩ = .error fault) :
    v.isList = true ∧ fault = .listOperand column := by
  by_cases hlist : v.isList
  · refine ⟨hlist, ?_⟩
    simp [Filter.pair, Filter.segment, Operand.valueIn, Filter.effective, Filter.operandText, hnull,
      hlist, Except.map, bind, Except.bind] at h
    exact h.symm
  · simp [Filter.pair, Filter.segment, Operand.valueIn, Filter.effective, Filter.operandText, hnull,
      hlist, Except.map, bind, Except.bind] at h

/-- An entry whose row can be found has a query string, unless its key has a list in it. -/
theorem rowQuery_eq_error {filters : List Filter} {fault : Fault}
    (hfilters : m.rowFilters e = .ok filters) (h : m.rowQuery e = .error fault) :
    ∃ p ∈ m.key, (e.stored p).isList = true ∧
      ∃ column, m.column? p = some column ∧ fault = .listOperand column := by
  have hquery : Query.queryString
      { Query.ofTable m.table with conditions := ⟨filters, []⟩ } .empty = .error fault := by
    rw [rowQuery, hfilters] at h
    exact h
  rcases Except.bind_eq_error.1 hquery with h | ⟨pairs, -, h⟩
  · obtain ⟨f, hf, hpair⟩ := Except.exists_of_mapM_eq_error h
    obtain ⟨p, hp, hfilter⟩ := mem_rowFilters hfilters hf
    obtain ⟨column, hcolumn, hnull, rfl⟩ := rowFilter_eq_ok hfilter
    obtain ⟨hlist, hfault⟩ := pair_eq_error hnull hpair
    exact ⟨p, hp, hlist, column, hcolumn, hfault⟩
  · simp [Query.ofTable, RowCount.pair, pure, Except.pure, bind, Except.bind] at h

/-- A request that was found possible is made, unless its key has a list in it. -/
theorem request_eq_error {endpoint : Endpoint} {segments : List String} {w : Write} {fault : Fault}
    (hpath : endpoint.baseUrl.path = .segments segments) (hw : m.writeOf e = .ok w)
    (h : m.request e endpoint = .error fault) :
    e.state ≠ .added ∧ ∃ p ∈ m.key, (e.stored p).isList = true ∧
      ∃ column, m.column? p = some column ∧ fault = .listOperand column := by
  have hstate := ofState_of_writeOf hw
  have hurl (q : QueryString) : ∃ url, Endpoint.tableUrl endpoint.baseUrl m.table q = .ok url := by
    simp [Endpoint.tableUrl, Url.ofTable?, hpath]
  by_cases hinsert : w = .insert
  · obtain ⟨url, hurl⟩ := hurl .empty
    simp [request, hstate, hinsert, hurl, bind, Except.bind] at h
  cases hquery : m.rowQuery e with
  | ok query =>
    obtain ⟨url, hurl⟩ := hurl query
    simp [request, hstate, hinsert, hquery, hurl, bind, Except.bind] at h
  | error f =>
    simp [request, hstate, hinsert, hquery, bind, Except.bind] at h
    obtain ⟨w', hw', hrest⟩ := Except.bind_eq_ok.1 hw
    cases hstate.symm.trans hw'
    rw [if_neg hinsert] at hrest
    obtain ⟨filters, hfilters, -⟩ := Except.bind_eq_ok.1 hrest
    exact ⟨mt (Write.ofState_eq_insert hstate).2 hinsert, rowQuery_eq_error hfilters (h ▸ hquery)⟩

end Entity

namespace Save

open Repoint

variable {σ : Type} {n : Nat} {d : Session σ} {patience : Option Nat} {entries : Vector Entry n}
  {s : σ}

/-- A run that fails, but not by an outcome, has sent nothing and changed nothing, or it has met a
stored key with a list in it. -/
theorem rejected_before_sending {segments : List String} {fault : Fault}
    (hpath : d.endpoint.baseUrl.path = .segments segments)
    (hending : (start d patience entries s).ending = .failed fault)
    (hkind : fault.kind ∈ [FaultClass.invalidState, .noPrimaryKey, .unsupported]) :
    (start d patience entries s).log.requests = [] ∧
        (start d patience entries s).entries = entries ∨
      ∃ i m, d.schema.get? (entries.get i).entity = some m ∧
        (entries.get i).state ≠ .added ∧ ∃ p ∈ m.key, ((entries.get i).stored p).isList = true ∧
          ∃ column, m.column? p = some column ∧ fault = .listOperand column := by
  rcases start_cases d patience entries s with ⟨hsent, f, hstart⟩ | ⟨p, r, hplan, hstart, hcourse⟩
  · left
    rw [requests_start, hsent, hstart]
    exact ⟨rfl, rfl⟩
  right
  rw [hstart] at hending
  obtain ⟨hbatch, hready⟩ := plan_eq_ok hplan
  rcases hcourse.failed (nodup_order hbatch) hending with houtcome | ⟨i, hi, e, he, hlaunch⟩
  · exfalso
    generalize fault.kind = kind at hkind houtcome
    revert hkind houtcome
    cases kind <;> decide
  -- The model of the entry and the possibility of its request are those found by the plan.
  obtain ⟨m, w, hm, hw⟩ := hready i hi
  have hmodel : modelOf d.schema e = .ok m := modelOf_eq_ok.2 (he.entity ▸ hm)
  have hwrite : m.writeOf e = .ok w := (Entity.writeOf_congr he.state he.stored).trans hw
  have hrequest : m.request e d.endpoint = .error fault := by
    cases hrequest : m.request e d.endpoint with
    | ok request => simp [launch, hmodel, hwrite, hrequest, bind, Except.bind] at hlaunch
    | error f => simpa [launch, hmodel, hwrite, hrequest, bind, Except.bind] using hlaunch
  obtain ⟨hstate, p, hp, hlist, hcolumn⟩ := Entity.request_eq_error hpath hwrite hrequest
  exact ⟨i, m, hm, he.state ▸ hstate, p, hp, he.stored p ▸ hlist, hcolumn⟩

/-- People, and tags that are known by a path, which is a list. -/
def catalogue : Schema := .ofList
  [⟨"Person", "people",
      [⟨"Id", "id", .text, true, false⟩, ⟨"Name", "name", .text, false, false⟩], ["Id"], []⟩,
    ⟨"Tag", "tags", [⟨"Path", "path", .list .text, false, false⟩], ["Path"], []⟩]

/-- A new person, and the delete of a tag. -/
def catalogueBatch (path : Value) : Vector Entry 2 :=
  #v[((Entry.start "Person" .added).assignTemporary "Id" (.text "new")).assign "Name" (.text "Ada"),
    (Entry.start "Tag" .deleted).assign "Path" path]

/-- The run of that batch; the key of the new person is ready. -/
def catalogueRun (path : Value) : SaveRun (List Response) 2 :=
  saveAll (scriptedSession catalogue) (catalogueBatch path) (assigning ["p1"])

/-- A tag without a path is found out before the person is sent. -/
theorem rejected_tagWithoutPath :
    (catalogueRun .null).ending = .failed (.noStoredKey "Tag" "Path") ∧
      (catalogueRun .null).log.requests = [] ∧
      (catalogueRun .null).entries = catalogueBatch .null := by
  have hending : (catalogueRun .null).ending = .failed (.noStoredKey "Tag" "Path") := by cbv
  have hpath : (scriptedSession catalogue).endpoint.baseUrl.path = .segments [""] := rfl
  refine ⟨hending, ?_⟩
  rcases rejected_before_sending hpath hending (by decide) with
    h | ⟨i, m, -, -, p, -, -, column, -, hfault⟩
  · exact h
  · simp at hfault

/-- A tag whose path is a list is found out when the person has been sent and has got its key. -/
theorem sent_before_rejection :
    (catalogueRun (.list [.text "a", .text "b"])).ending = .failed (.listOperand "path") ∧
      (Fault.listOperand "path").kind = .unsupported ∧
      (catalogueRun (.list [.text "a", .text "b"])).log.requests.map Request.method = [.post] ∧
      ((catalogueRun (.list [.text "a", .text "b"])).entries.get 0).current "Id" = .text "p1" := by
  refine ⟨?_, rfl, ?_, ?_⟩
  · cbv
  · cbv
  · cbv

end Save

end RemoteTable
