import Mathlib
import RemoteTable.Proofs.Row.Documents
import RemoteTable.Proofs.Save.Rejection

/-!
Runs as exchanges. A run is told here by what it sends and by the outcomes that it waits for, so
that what becomes of the entries, and how the run ends, can be traced back to the responses.
-/

namespace RemoteTable

/-- The outcomes of requests that are sent one after another. -/
def Transport.outcomes {σ : Type} (t : Transport σ) : σ → List Request → List Outcome
  | _, [] => []
  | s, r :: l => (t.send s r).1 :: t.outcomes (t.send s r).2 l

theorem readOutcome_eq_ok {op : Operation} {table : String} {o : Outcome} {r : Response} :
    readOutcome op table o = .ok r ↔ o = .ok r ∧ r.isSuccess = true := by
  cases o with
  | error e => simp [readOutcome]
  | ok r' =>
    by_cases h : r'.isSuccess = true
    · simp only [readOutcome, h, if_true, Except.ok.injEq]
      exact ⟨fun hr => ⟨hr, hr ▸ h⟩, And.left⟩
    · simp only [readOutcome, h, Except.ok.injEq]
      refine ⟨fun hr => ?_, fun hr => absurd (hr.1 ▸ hr.2) h⟩
      cases hr

namespace Save

variable {m : Entity} {w : Write} {r : Response}

/-- The values that are read are those of the members. -/
theorem mem_readGenerated {o : JsonMembers} {l : List Field} {x : String × Value}
    (hx : x ∈ (readGenerated m o l).1) : ∃ f ∈ l, f.name = x.1 ∧
      ∃ j, Row.memberFor o f = some j ∧ Value.ofJson f.kind j = .ok x.2 := by
  induction l with
  | nil => simp [readGenerated] at hx
  | cons g l ih =>
    unfold readGenerated at hx
    split at hx
    · exact (ih hx).imp fun _ h => ⟨List.mem_cons_of_mem _ h.1, h.2⟩
    next j hj =>
      split at hx
      · simp at hx
      next v hv =>
        rcases List.mem_cons.1 hx with rfl | hx
        · exact ⟨g, List.mem_cons_self, rfl, j, hj, hv⟩
        · exact (ih hx).imp fun _ h => ⟨List.mem_cons_of_mem _ h.1, h.2⟩

theorem firstRow_eq (hfilled : r.body.toList.all Text.isAsciiBlank = false) :
    firstRow r = match Row.objectsOf r.body with
      | .ok rows => .ok rows.head?
      | .error e => .error (.badBody .mutation e) := by
  unfold firstRow
  exact if_neg (by simp [hfilled])

/-- What is taken over stands in the first row of the response. -/
theorem mem_assignedValues {x : String × Value} (hx : x ∈ (assignedValues m w r).1) :
    w ≠ .delete ∧ ∃ o rows, Row.Splits r.body (.ok (o :: rows)) ∧
      ∃ f ∈ m.generatedFields, f.name = x.1 ∧
        ∃ j, Row.memberFor o f = some j ∧ Value.ofJson f.kind j = .ok x.2 := by
  unfold assignedValues at hx
  split at hx
  case isTrue => simp at hx
  case isFalse hdelete =>
    refine ⟨hdelete, ?_⟩
    cases hfilled : r.body.toList.all Text.isAsciiBlank with
    | true => simp [firstRow, hfilled] at hx
    | false =>
      rw [firstRow_eq hfilled] at hx
      cases hbody : Row.objectsOf r.body with
      | error e => simp [hbody] at hx
      | ok rows =>
        cases rows with
        | nil => simp [hbody] at hx
        | cons o rows =>
          simp only [hbody, List.head?_cons] at hx
          exact ⟨o, rows, Row.splits_iff.2 hbody, mem_readGenerated hx⟩

section dialogue

variable {σ : Type} {n : Nat}

/-- The outcomes that a run waits for. -/
def awaited (patience : Option Nat) (l : List Outcome) : List Outcome :=
  match patience with
  | none => l
  | some k => l.take k

theorem awaited_nil (patience : Option Nat) : awaited patience [] = [] := by
  cases patience with
  | none => rfl
  | some k => exact List.take_nil

theorem awaited_cons {patience : Option Nat} (h : patience ≠ some 0) (o : Outcome)
    (l : List Outcome) : awaited patience (o :: l) = o :: awaited (patience.map (· - 1)) l := by
  cases patience with
  | none => rfl
  | some k =>
    cases k with
    | zero => exact absurd rfl h
    | succ k => rfl

/-- A run, told by what it sends and by the outcomes that it waits for. -/
inductive Dialogue (d : Session σ) (summary : Summary) :
    List (Fin n) → Vector Entry n → List (Sending n) → List Outcome → SaveRun σ n → Prop
  | done {entries : Vector Entry n} {s : σ} :
    Dialogue d summary [] entries [] [] ⟨.done summary, entries, [], s⟩
  | unready {i : Fin n} {pending : List (Fin n)} {entries : Vector Entry n} {s : σ} {f : Fault}
      (launch : launch d (entries.get i) = .error f) :
    Dialogue d summary (i :: pending) entries [] [] ⟨.failed f, entries, [], s⟩
  | abandoned {i : Fin n} {pending : List (Fin n)} {entries : Vector Entry n} {s : σ}
      {flight : InFlight} {log : Log} (launch : launch d (entries.get i) = .ok flight) :
    Dialogue d summary (i :: pending) entries [⟨i, entries.get i, flight⟩] []
      ⟨.abandoned, entries, log, s⟩
  | refused {i : Fin n} {pending : List (Fin n)} {entries : Vector Entry n} {s : σ}
      {flight : InFlight} {log : Log} {o : Outcome} {event : Event} {f : Fault}
      (launch : launch d (entries.get i) = .ok flight)
      (outcome : readOutcome flight.write.operation flight.model.table o = .error (event, f)) :
    Dialogue d summary (i :: pending) entries [⟨i, entries.get i, flight⟩] [o]
      ⟨.failed f, entries, log, s⟩
  | unreadable {i : Fin n} {pending : List (Fin n)} {entries : Vector Entry n} {s : σ}
      {flight : InFlight} {log : Log} {r : Response} {values : List (String × Value)} {f : Fault}
      (launch : launch d (entries.get i) = .ok flight) (success : r.isSuccess = true)
      (assigned : assignedValues flight.model flight.write r = (values, some f)) :
    Dialogue d summary (i :: pending) entries [⟨i, entries.get i, flight⟩] [.ok r]
      ⟨.failed f, entries.set i (acceptAll (entries.get i) values) i.isLt, log, s⟩
  | next {i : Fin n} {pending : List (Fin n)} {entries : Vector Entry n} {run : SaveRun σ n}
      {flight : InFlight} {log : Log} {r : Response} {values : List (String × Value)}
      {l : List (Sending n)} {outcomes : List Outcome}
      (launch : launch d (entries.get i) = .ok flight) (success : r.isSuccess = true)
      (assigned : assignedValues flight.model flight.write r = (values, none))
      (rest : Dialogue d summary pending (settle d flight i values pending entries).1 l outcomes
        run) :
    Dialogue d summary (i :: pending) entries (⟨i, entries.get i, flight⟩ :: l) (.ok r :: outcomes)
      (SaveRun.after log run)

section

variable {d : Session σ} {i : Fin n} {pending : List (Fin n)} {entries entries' : Vector Entry n}
  {s s' : σ} {patience : Option Nat} {flight : InFlight}

theorem sendings_last (hlaunch : launch d (entries.get i) = .ok flight)
    (h : patience = some 0 ∨ advance d i pending entries s = none) :
    sendings d (i :: pending) patience entries s = [⟨i, entries.get i, flight⟩] := by
  rcases h with h | h
  · simp only [sendings, hlaunch, h, if_true]
  · simp only [sendings, hlaunch, h, ite_self]

theorem sendings_next (hlaunch : launch d (entries.get i) = .ok flight)
    (hpatience : patience ≠ some 0) (h : advance d i pending entries s = some (entries', s')) :
    sendings d (i :: pending) patience entries s =
      ⟨i, entries.get i, flight⟩ :: sendings d pending (patience.map (· - 1)) entries' s' := by
  simp only [sendings, hlaunch, hpatience, if_false, h]

end

/-- What holds of every run, step by step. A run is over with its plan, with an entry that cannot be
sent, with a request that is not waited for, with an outcome of failure and with a row that cannot
be read; otherwise it goes on. -/
theorem sendAll_induction {d : Session σ} {summary : Summary}
    {motive : List (Fin n) → Vector Entry n → List (Sending n) → List Outcome → SaveRun σ n → Prop}
    (done : ∀ entries s, motive [] entries [] [] ⟨.done summary, entries, [], s⟩)
    (unready : ∀ i pending entries s f, launch d (entries.get i) = .error f →
      motive (i :: pending) entries [] [] ⟨.failed f, entries, [], s⟩)
    (abandoned : ∀ i pending entries s flight, launch d (entries.get i) = .ok flight →
      motive (i :: pending) entries [⟨i, entries.get i, flight⟩] []
        ⟨.abandoned, entries, flight.opening ++ flight.closing 0, s⟩)
    (refused : ∀ i pending entries s flight o event f, launch d (entries.get i) = .ok flight →
      readOutcome flight.write.operation flight.model.table o = .error (event, f) →
      motive (i :: pending) entries [⟨i, entries.get i, flight⟩] [o]
        ⟨.failed f, entries, flight.opening ++ .event event :: flight.closing 0, s⟩)
    (unreadable : ∀ i pending entries s flight r values f, launch d (entries.get i) = .ok flight →
      r.isSuccess = true → assignedValues flight.model flight.write r = (values, some f) →
      motive (i :: pending) entries [⟨i, entries.get i, flight⟩] [.ok r]
        ⟨.failed f, entries.set i (acceptAll (entries.get i) values) i.isLt,
          flight.opening ++ values.map (fun (p, v) => .generated i p v) ++ flight.closing 1, s⟩)
    (next : ∀ i pending entries flight r values l outcomes run,
      launch d (entries.get i) = .ok flight → r.isSuccess = true →
      assignedValues flight.model flight.write r = (values, none) →
      motive pending (settle d flight i values pending entries).1 l outcomes run →
      motive (i :: pending) entries (⟨i, entries.get i, flight⟩ :: l) (.ok r :: outcomes)
        (SaveRun.after
          (flight.opening ++ values.map (fun (p, v) => .generated i p v) ++ flight.closing 1 ++
            (settle d flight i values pending entries).2) run))
    (pending : List (Fin n)) (patience : Option Nat) (entries : Vector Entry n) (s : σ) :
    motive pending entries (sendings d pending patience entries s)
      (awaited patience
        (d.transport.outcomes s ((sendings d pending patience entries s).map (·.flight.request))))
      (sendAll d summary pending patience entries s) := by
  induction pending generalizing patience entries s with
  | nil =>
    simp only [sendings, sendAll, List.map_nil, Transport.outcomes, awaited_nil]
    exact done entries s
  | cons i pending ih =>
    cases hlaunch : launch d (entries.get i) with
    | error f =>
      simp only [sendings, sendAll, hlaunch, List.map_nil, Transport.outcomes, awaited_nil]
      exact unready i pending entries s f hlaunch
    | ok flight =>
      by_cases hpatience : patience = some 0
      · rw [sendings_last hlaunch (.inl hpatience), hpatience]
        simp only [sendAll, hlaunch, if_true, awaited, List.take_zero]
        exact abandoned i pending entries s flight hlaunch
      -- The outcome is waited for. It ends the run unless all of it can be read.
      cases houtcome : readOutcome flight.write.operation flight.model.table
          (d.transport.send s flight.request).1 with
      | error x =>
        have hadvance : advance d i pending entries s = none := by
          simp only [advance, hlaunch, houtcome]
        rw [sendings_last hlaunch (.inr hadvance), List.map_cons, Transport.outcomes,
          awaited_cons hpatience, List.map_nil, Transport.outcomes, awaited_nil]
        simp only [sendAll, hlaunch, hpatience, if_false, houtcome]
        exact refused i pending entries _ flight _ _ _ hlaunch houtcome
      | ok r =>
        obtain ⟨hsend, hsuccess⟩ := readOutcome_eq_ok.1 houtcome
        cases hvalues : assignedValues flight.model flight.write r with
        | mk values fault =>
          cases fault with
          | some f =>
            have hadvance : advance d i pending entries s = none := by
              simp only [advance, hlaunch, houtcome, hvalues]
            rw [sendings_last hlaunch (.inr hadvance), List.map_cons, Transport.outcomes,
              awaited_cons hpatience, List.map_nil, Transport.outcomes, awaited_nil, hsend]
            simp only [sendAll, hlaunch, hpatience, if_false, houtcome, hvalues]
            exact unreadable i pending entries _ flight r values f hlaunch hsuccess hvalues
          | none =>
            have hadvance : advance d i pending entries s =
                some ((settle d flight i values pending entries).1,
                  (d.transport.send s flight.request).2) := by
              simp only [advance, hlaunch, houtcome, hvalues, settle]
            rw [sendings_next hlaunch hpatience hadvance, List.map_cons, Transport.outcomes,
              awaited_cons hpatience, hsend]
            simp only [sendAll, hlaunch, hpatience, if_false, houtcome, hvalues]
            exact next i pending entries flight r values _ _ _ hlaunch hsuccess hvalues (ih ..)

theorem dialogue_sendAll (d : Session σ) (summary : Summary) (pending : List (Fin n))
    (patience : Option Nat) (entries : Vector Entry n) (s : σ) :
    Dialogue d summary pending entries (sendings d pending patience entries s)
      (awaited patience
        (d.transport.outcomes s ((sendings d pending patience entries s).map (·.flight.request))))
      (sendAll d summary pending patience entries s) := by
  apply sendAll_induction
  case done => exact fun _ _ => .done
  case unready => exact fun _ _ _ _ _ hlaunch => .unready hlaunch
  case abandoned => exact fun _ _ _ _ _ hlaunch => .abandoned hlaunch
  case refused => exact fun _ _ _ _ _ _ _ _ hlaunch houtcome => .refused hlaunch houtcome
  case unreadable =>
    exact fun _ _ _ _ _ _ _ _ hlaunch hsuccess hvalues => .unreadable hlaunch hsuccess hvalues
  case next =>
    exact fun _ _ _ _ _ _ _ _ _ hlaunch hsuccess hvalues hrest =>
      .next hlaunch hsuccess hvalues hrest

namespace Dialogue

variable {d : Session σ} {summary : Summary} {pending : List (Fin n)} {entries : Vector Entry n}
  {l : List (Sending n)} {outcomes : List Outcome} {run : SaveRun σ n}

/-- An outcome answers what was sent. -/
theorem length_le (h : Dialogue d summary pending entries l outcomes run) :
    outcomes.length ≤ l.length := by
  induction h with
  | next _ _ _ _ ih => exact Nat.succ_le_succ ih
  | _ => simp

end Dialogue

end dialogue

section addresses

variable {σ : Type} {n : Nat} {d : Session σ} {e e' : Entry}

/-- The type of an entry, and the write that its state calls for. -/
def Calls (d : Session σ) (e : Entry) (m : Entity) (w : Write) : Prop :=
  d.schema.get? e.entity = some m ∧ Write.ofState m.name e.state = .ok w

/-- The clauses that find a row by its key: one for each property, with the value stored. -/
def FindsRow (m : Entity) (e : Entry) (pairs : List (String × String)) : Prop :=
  m.key ≠ [] ∧ List.Forall₂ (fun p pair => m.column? p = some pair.1 ∧
    (e.stored p).isNull = false ∧ pair.2 = "eq." ++ (e.stored p).wireText) m.key pairs

/-- A request is that of an entry: it has the method of its state and goes to its table, and an
update or delete names the stored key. -/
def Addresses (d : Session σ) (e : Entry) (r : Request) : Prop :=
  ∃ m w q, Calls d e m w ∧ r.method = w.method ∧
    Endpoint.tableUrl d.endpoint.baseUrl m.table q = .ok r.url ∧
    if w = .insert then q.pairs = [] else FindsRow m e q.pairs

theorem Calls.unique {m m' : Entity} {w w' : Write} (h : Calls d e m w) (h' : Calls d e m' w') :
    m = m' ∧ w = w' := by
  cases h.1.symm.trans h'.1
  exact ⟨rfl, Except.ok.inj (h.2.symm.trans h'.2)⟩

theorem Calls.of_launch {f : InFlight} (h : launch d e = .ok f) : Calls d e f.model f.write :=
  ⟨(launch_eq_ok h).1, Entity.ofState_of_writeOf (launch_eq_ok h).2.1⟩

theorem pair_of_eq {bag : Bag} {column : String} {v : Value} {pair : String × String}
    (hnull : v.isNull = false)
    (h : Filter.pair bag ⟨column, .compare .eq, false, .literal v⟩ = .ok pair) :
    pair = (column, "eq." ++ v.wireText) := by
  cases hlist : v.isList with
  | true =>
    simp [Filter.pair, Filter.segment, Operand.valueIn, Filter.effective, Filter.operandText, hnull,
      hlist, Except.map, bind, Except.bind] at h
  | false =>
    simp [Filter.pair, Filter.segment, Operand.valueIn, Filter.effective, Filter.operandText, hnull,
      hlist, Except.map, bind, Except.bind, ColumnTest.label] at h
    exact h.symm

theorem findsRow_of_rowQuery {m : Entity} {q : QueryString} (h : m.rowQuery e = .ok q) :
    FindsRow m e q.pairs := by
  obtain ⟨filters, hfilters, hquery⟩ := Except.bind_eq_ok.1 h
  obtain ⟨pairs, hpairs, hquery⟩ := Except.bind_eq_ok.1 hquery
  have hq : q.pairs = pairs := by
    simp [Query.ofTable, RowCount.pair, Query.selectPairs, Query.orderPairs, pure, Except.pure,
      bind, Except.bind] at hquery
    exact hquery ▸ rfl
  have hkey : m.hasKey = true := by
    by_contra hkey
    simp [Entity.rowFilters, hkey] at hfilters
  rw [Entity.rowFilters, if_pos hkey] at hfilters
  refine ⟨by simpa [Entity.hasKey] using hkey, hq ▸ ?_⟩
  refine (Except.forall₂_of_mapM_mapM hfilters hpairs).imp ?_
  rintro p pair ⟨filter, hfilter, hpair⟩
  obtain ⟨column, hcolumn, hnull, rfl⟩ := Entity.rowFilter_eq_ok hfilter
  cases pair_of_eq hnull hpair
  exact ⟨hcolumn, hnull, rfl⟩

theorem request_eq_ok {m : Entity} {w : Write} {endpoint : Endpoint} {r : Request}
    (hw : Write.ofState m.name e.state = .ok w) (h : m.request e endpoint = .ok r) :
    ∃ q, (if w = .insert then q = .empty else m.rowQuery e = .ok q) ∧
      Endpoint.tableUrl endpoint.baseUrl m.table q = .ok r.url ∧ r.method = w.method := by
  obtain ⟨w', hw', h⟩ := Except.bind_eq_ok.1 h
  cases hw.symm.trans hw'
  by_cases hinsert : w = .insert
  · rw [if_pos hinsert] at h
    obtain ⟨q, hq, h⟩ := Except.bind_eq_ok.1 h
    obtain ⟨url, hurl, h⟩ := Except.bind_eq_ok.1 h
    cases h
    refine ⟨q, ?_, hurl, rfl⟩
    rw [if_pos hinsert]
    exact (Except.ok.inj hq).symm
  · rw [if_neg hinsert] at h
    obtain ⟨q, hq, h⟩ := Except.bind_eq_ok.1 h
    obtain ⟨url, hurl, h⟩ := Except.bind_eq_ok.1 h
    cases h
    exact ⟨q, by rwa [if_neg hinsert], hurl, rfl⟩

theorem FindsRow.congr {m : Entity} {pairs : List (String × String)} (h : FindsRow m e' pairs)
    (hstored : ∀ p, e'.stored p = e.stored p) : FindsRow m e pairs := by
  simpa only [FindsRow, hstored] using h

/-- The request of an entry that has only followed keys is that of the entry before. -/
theorem addresses_of_launch {f : InFlight} (hlaunch : launch d e' = .ok f)
    (he : Repoint.Repointed d.schema e e') : Addresses d e f.request := by
  obtain ⟨hmodel, hwrite⟩ := Calls.of_launch hlaunch
  obtain ⟨q, hq, hurl, hmethod⟩ := request_eq_ok hwrite (launch_eq_ok hlaunch).2.2
  refine ⟨f.model, f.write, q, ⟨he.entity ▸ hmodel, he.state ▸ hwrite⟩, hmethod, hurl, ?_⟩
  split
  case isTrue hinsert =>
    rw [if_pos hinsert] at hq
    rw [hq, QueryString.empty]
  case isFalse hinsert =>
    rw [if_neg hinsert] at hq
    exact (findsRow_of_rowQuery hq).congr he.stored

/-- What is sent first is of the first entry of the order, and so on. -/
theorem Course.of_getElem? {summary : Summary} {pending : List (Fin n)}
    {entries : Vector Entry n} {l : List (Sending n)} {run : SaveRun σ n}
    (h : Course d summary pending entries l run) (hpending : pending.Nodup) {a : Nat}
    {x : Sending n} (hx : l[a]? = some x) :
    pending[a]? = some x.position ∧
      Calls d (entries.get x.position) x.flight.model x.flight.write ∧
      Addresses d (entries.get x.position) x.flight.request := by
  have hmem := List.mem_of_getElem? hx
  have hrepointed := h.repointed hpending hmem
  have hlaunch := h.launched hmem
  obtain ⟨hmodel, hwrite⟩ := Calls.of_launch hlaunch
  refine ⟨?_, ⟨hrepointed.entity ▸ hmodel, hrepointed.state ▸ hwrite⟩,
    addresses_of_launch hlaunch hrepointed⟩
  obtain ⟨rest, hrest⟩ := h.positions
  have ha : a < (l.map Sending.position).length := by
    simpa using (List.getElem?_eq_some_iff.1 hx).1
  rw [← hrest, List.getElem?_append_left ha, List.getElem?_map, hx]
  rfl

end addresses

section start

variable {σ : Type} {n : Nat}

/-- Saves a batch: to its end, or as far as a number of polls takes it. -/
def saveWithin (d : Session σ) (polls : Option Nat) (entries : Vector Entry n) (s : σ) :
    SaveRun σ n :=
  match polls with
  | none => saveAll d entries s
  | some polls => savePolled d polls entries s

/-- The outcomes that saving a batch waits for: those of its requests, where each poll but the first
takes one. -/
def replies (d : Session σ) (polls : Option Nat) (entries : Vector Entry n) (s : σ) :
    List Outcome :=
  awaited (polls.map (· - 1))
    (d.transport.outcomes s (saveWithin d polls entries s).log.requests)

variable {d : Session σ} {polls : Option Nat} {entries : Vector Entry n} {s : σ} {p : Plan n}

/-- A run that is polled at all is started; its first poll takes no outcome. -/
theorem saveWithin_eq_start (h : polls ≠ some 0) :
    saveWithin d polls entries s = start d (polls.map (· - 1)) entries s := by
  cases polls with
  | none => rfl
  | some polls =>
    cases polls with
    | zero => exact absurd rfl h
    | succ polls => rfl

/-- Without a plan nothing is sent, and the run has failed. -/
theorem saveWithin_unplanned {f : Fault} (hpolls : polls ≠ some 0)
    (hplan : (plan d entries).2 = .error f) :
    (saveWithin d polls entries s).log.requests = [] ∧
      (saveWithin d polls entries s).entries = entries ∧
      (saveWithin d polls entries s).ending = .failed f := by
  rw [saveWithin_eq_start hpolls, start]
  have hlog := requests_plan d entries
  cases h : plan d entries with
  | mk log outcome =>
    rw [h] at hplan hlog
    cases hplan
    exact ⟨hlog, rfl, rfl⟩

/-- With a plan, saving a batch is a dialogue over its order. -/
theorem saveWithin_planned (hpolls : polls ≠ some 0) (hplan : (plan d entries).2 = .ok p) :
    ∃ l run, (saveWithin d polls entries s).ending = run.ending ∧
      (saveWithin d polls entries s).entries = run.entries ∧
      (saveWithin d polls entries s).log.requests = l.map (·.flight.request) ∧
      Course d ⟨p.order.length, p.elided.length⟩ p.order entries l run ∧
      Dialogue d ⟨p.order.length, p.elided.length⟩ p.order entries l
        (replies d polls entries s) run := by
  have hrun : start d (polls.map (· - 1)) entries s = SaveRun.after (plan d entries).1
      (sendAll d ⟨p.order.length, p.elided.length⟩ p.order (polls.map (· - 1)) entries s) :=
    start_eq (Prod.ext rfl hplan)
  have hreplies : replies d polls entries s = awaited (polls.map (· - 1)) (d.transport.outcomes s
      ((sendings d p.order (polls.map (· - 1)) entries s).map (·.flight.request))) := by
    rw [replies, saveWithin_eq_start hpolls, requests_start, sent_eq hplan]
  rw [hreplies, saveWithin_eq_start hpolls]
  refine ⟨_, _, ?_, ?_, ?_, course_sendAll .., dialogue_sendAll ..⟩
  · rw [hrun, SaveRun.after]
  · rw [hrun, SaveRun.after]
  · rw [requests_start, sent_eq hplan]

/-- What saving a batch comes to: nothing at all, or a dialogue over the order of its plan. -/
theorem saveWithin_cases (d : Session σ) (polls : Option Nat) (entries : Vector Entry n) (s : σ) :
    (saveWithin d polls entries s).log.requests = [] ∧
        (saveWithin d polls entries s).entries = entries ∧
        (∀ q, (saveWithin d polls entries s).ending ≠ .done q) ∨
      ∃ p l run, Plan.ofBatch d.schema entries = .ok p ∧
        (saveWithin d polls entries s).ending = run.ending ∧
        (saveWithin d polls entries s).entries = run.entries ∧
        (saveWithin d polls entries s).log.requests = l.map (·.flight.request) ∧
        Course d ⟨p.order.length, p.elided.length⟩ p.order entries l run ∧
        Dialogue d ⟨p.order.length, p.elided.length⟩ p.order entries l
          (replies d polls entries s) run := by
  by_cases hpolls : polls = some 0
  · subst hpolls
    refine .inl ⟨rfl, rfl, fun q h => ?_⟩
    cases h
  cases hplan : (plan d entries).2 with
  | error f =>
    obtain ⟨hrequests, hentries, hending⟩ := saveWithin_unplanned (s := s) hpolls hplan
    refine .inl ⟨hrequests, hentries, fun q h => ?_⟩
    rw [hending] at h
    cases h
  | ok p =>
    obtain ⟨l, run, hrun⟩ := saveWithin_planned (s := s) hpolls hplan
    exact .inr ⟨p, l, run, (plan_eq_ok hplan).1, hrun⟩

end start

end Save

end RemoteTable
