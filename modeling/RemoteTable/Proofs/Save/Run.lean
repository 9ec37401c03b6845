import Mathlib
import RemoteTable.Proofs.Change.Order
import RemoteTable.Proofs.Save.Repointing

/-!
Runs as lists of what they send. A run sends the entries of its plan in order up to some point.
Until an entry is sent it only follows keys of others; once it is written, it takes over what the
store assigns and is not touched again.
-/

namespace RemoteTable

theorem Write.ofState_eq_insert {entity : String} {state : ChangeState} {w : Write}
    (h : Write.ofState entity state = .ok w) : w = .insert ↔ state = .added := by
  cases state <;> cases h <;> simp

theorem Entity.ofState_of_writeOf {m : Entity} {e : Entry} {w : Write} (h : m.writeOf e = .ok w) :
    Write.ofState m.name e.state = .ok w := by
  obtain ⟨w', hw, h⟩ := Except.bind_eq_ok.1 h
  split at h
  · exact Except.ok.inj h ▸ hw
  · obtain ⟨-, -, h⟩ := Except.bind_eq_ok.1 h
    exact Except.ok.inj h ▸ hw

namespace Save

open Repoint

variable {σ : Type} {n : Nat} {d : Session σ} {i j : Fin n} {pending : List (Fin n)}
  {entries entries' : Vector Entry n} {s s' : σ} {patience : Option Nat} {summary : Summary}

/-- An entry that is sent: its place, what it is by then, and the request made of it. -/
structure Sending (n : Nat) where
  position : Fin n
  entry : Entry
  flight : InFlight

/-- The entries and the transport after the entry at `i` is written, if nothing goes wrong. -/
def advance (d : Session σ) (i : Fin n) (pending : List (Fin n)) (entries : Vector Entry n)
    (s : σ) : Option (Vector Entry n × σ) :=
  match launch d (entries.get i) with
  | .error _ => none
  | .ok flight =>
    let (outcome, s) := d.transport.send s flight.request
    match readOutcome flight.write.operation flight.model.table outcome with
    | .error _ => none
    | .ok response =>
      let (values, fault) := assignedValues flight.model flight.write response
      let after := acceptAll (entries.get i) values
      match fault with
      | some _ => none
      | none =>
        some ((passOn d flight (entries.get i) after (entries.set i after i.isLt) pending).1, s)

/-- What a run sends. -/
def sendings (d : Session σ) :
    List (Fin n) → Option Nat → Vector Entry n → σ → List (Sending n)
  | [], _, _, _ => []
  | i :: pending, patience, entries, s =>
    match launch d (entries.get i) with
    | .error _ => []
    | .ok flight =>
      ⟨i, entries.get i, flight⟩ ::
        if patience = some 0 then []
        else
          match advance d i pending entries s with
          | none => []
          | some (entries, s) => sendings d pending (patience.map (· - 1)) entries s

/-- What saving a batch sends. -/
def sent (d : Session σ) (patience : Option Nat) (entries : Vector Entry n) (s : σ) :
    List (Sending n) :=
  match (plan d entries).2 with
  | .error _ => []
  | .ok p => sendings d p.order patience entries s

/-- The key that the store has replaced, and the key that replaced it. -/
def InFlight.assignment (f : InFlight) (before after : Entry) : Assignment :=
  ⟨keyValues f.model before, keyValues f.model after⟩

theorem modelOf_eq_ok {schema : Schema} {e : Entry} {m : Entity} :
    modelOf schema e = .ok m ↔ schema.get? e.entity = some m := by
  unfold modelOf
  cases schema.get? e.entity <;> simp

/-- What is sent for an entry. -/
theorem launch_eq_ok {e : Entry} {f : InFlight} (h : launch d e = .ok f) :
    d.schema.get? e.entity = some f.model ∧ f.model.writeOf e = .ok f.write ∧
      f.model.request e d.endpoint = .ok f.request := by
  obtain ⟨m, hm, h⟩ := Except.bind_eq_ok.1 h
  obtain ⟨w, hw, h⟩ := Except.bind_eq_ok.1 h
  obtain ⟨r, hr, h⟩ := Except.bind_eq_ok.1 h
  cases h
  exact ⟨modelOf_eq_ok.1 hm, hw, hr⟩

/-- Only the entries that are added are inserted. -/
theorem write_eq_insert {e : Entry} {f : InFlight} (h : launch d e = .ok f) :
    f.write = .insert ↔ e.state = .added :=
  Write.ofState_eq_insert (Entity.ofState_of_writeOf (launch_eq_ok h).2.1)

section acceptAll

variable {e : Entry} {values : List (String × Value)}

@[simp] theorem acceptAll_cons (e : Entry) (x : String × Value) (values : List (String × Value)) :
    acceptAll e (x :: values) = acceptAll (e.accept x.1 x.2) values := rfl

/-- A property keeps its value or takes over an assigned one. -/
theorem current_acceptAll (p : String) :
    (acceptAll e values).current p = e.current p ∨
      ∃ v, (p, v) ∈ values ∧ (acceptAll e values).current p = v := by
  induction values generalizing e with
  | nil => exact .inl rfl
  | cons x values ih =>
    rw [acceptAll_cons]
    rcases ih (e := e.accept x.1 x.2) with h | ⟨v, hv, h⟩
    · by_cases hp : p = x.1
      · refine .inr ⟨x.2, hp ▸ List.mem_cons_self, h.trans ?_⟩
        simp [hp]
      · refine .inl (h.trans ?_)
        simp [hp]
    · exact .inr ⟨v, List.mem_cons_of_mem _ hv, h⟩

end acceptAll

theorem requests_append (l l' : Log) : Log.requests (l ++ l') = l.requests ++ l'.requests :=
  List.filterMap_append

theorem requests_generated (i : Nat) (values : List (String × Value)) :
    Log.requests (values.map fun (p, v) => .generated i p v) = [] := by
  simp [Log.requests, List.filterMap_map]

theorem mem_generated {values : List (String × Value)} {x : String × Value} (hx : x ∈ values)
    (i : Nat) : Notice.generated i x.1 x.2 ∈ values.map fun (p, v) => .generated i p v :=
  List.mem_map_of_mem hx

theorem requests_run (schema : Schema) (m : Entity) (a : Assignment) (entries : Vector Entry n)
    (pending : List (Fin n)) : (Repoint.run schema m a entries pending).2.requests = [] := by
  induction pending generalizing entries with
  | nil => rfl
  | cons i pending ih =>
    rw [Repoint.run, requests_append, ih]
    simp [Log.requests, List.filterMap_map]

theorem requests_passOn (d : Session σ) (f : InFlight) (before after : Entry)
    (entries : Vector Entry n) (pending : List (Fin n)) :
    (passOn d f before after entries pending).2.requests = [] := by
  unfold passOn
  simp only
  split
  · exact requests_run ..
  · rfl

/-- Keys are passed on to pending entries only, each of which is repointed by itself. -/
theorem get_passOn (hpending : pending.Nodup) (d : Session σ) (f : InFlight)
    (before after : Entry) (entries : Vector Entry n) (j : Fin n) :
    (passOn d f before after entries pending).1.get j =
      if j ∈ pending ∧ d.repoints ∧ f.write = .insert ∧ (f.assignment before after).matters then
        (repointAll f.model (f.assignment before after) (entries.get j)
          (referencesOf d.schema f.model (entries.get j))).1
      else entries.get j := by
  unfold passOn
  by_cases h : d.repoints ∧ f.write = .insert ∧ (f.assignment before after).matters
  · obtain ⟨hrepoints, hinsert, hmatters⟩ := h
    simp only [InFlight.assignment] at hmatters
    simp only [InFlight.assignment, hrepoints, hinsert, hmatters, beq_self_eq_true, Bool.and_self,
      if_true, and_self, and_true]
    exact get_run hpending ..
  · have hcond : ¬ (d.repoints && f.write == .insert &&
        (f.assignment before after).matters) = true := by simpa [and_assoc] using h
    simp only [InFlight.assignment] at hcond
    rw [if_neg hcond, if_neg fun hj => h hj.2]

section step

variable {flight : InFlight}

/-- The entries after the one at `i` has taken over values, with its key passed on; and what is
seen of it. -/
def settle (d : Session σ) (flight : InFlight) (i : Fin n) (values : List (String × Value))
    (pending : List (Fin n)) (entries : Vector Entry n) : Vector Entry n × Log :=
  passOn d flight (entries.get i) (acceptAll (entries.get i) values)
    (entries.set i (acceptAll (entries.get i) values) i.isLt) pending

/-- What becomes of each entry when the one at `i` is written. -/
theorem get_settle (hpending : (i :: pending).Nodup) (d : Session σ) (flight : InFlight)
    (values : List (String × Value)) (entries : Vector Entry n) (j : Fin n) :
    (settle d flight i values pending entries).1.get j =
      if j = i then acceptAll (entries.get i) values
      else if j ∈ pending ∧ d.repoints ∧ flight.write = .insert ∧
          (flight.assignment (entries.get i) (acceptAll (entries.get i) values)).matters then
        (repointAll flight.model
          (flight.assignment (entries.get i) (acceptAll (entries.get i) values)) (entries.get j)
          (referencesOf d.schema flight.model (entries.get j))).1
      else entries.get j := by
  obtain ⟨hi, hpending⟩ := List.nodup_cons.1 hpending
  rw [settle, get_passOn hpending, get_set]
  by_cases hj : j = i
  · subst hj
    simp [hi]
  · simp [hj]

/-- All that writing the first entry of a run does. -/
theorem sendAll_of_advance (summary : Summary) (hpatience : patience ≠ some 0)
    (h : advance d i pending entries s = some (entries', s')) :
    ∃ flight values, launch d (entries.get i) = .ok flight ∧
      entries' = (settle d flight i values pending entries).1 ∧
      sendAll d summary (i :: pending) patience entries s =
        SaveRun.after (flight.opening ++ values.map (fun (p, v) => .generated i p v) ++
            flight.closing 1 ++ (settle d flight i values pending entries).2)
          (sendAll d summary pending (patience.map (· - 1)) entries' s') := by
  unfold advance at h
  split at h
  · simp at h
  next flight hlaunch =>
    simp only at h
    split at h
    · simp at h
    next response hresponse =>
      split at h
      · simp at h
      next hfault =>
        cases h
        refine ⟨flight, (assignedValues flight.model flight.write response).1, hlaunch, rfl, ?_⟩
        simp only [sendAll, hlaunch, hpatience, if_false, hresponse, hfault, settle]

/-- The end of a run with the request of its first entry, the only one that may be changed. -/
structure EndsAt (i : Fin n) (flight : InFlight) (entries : Vector Entry n) (r : SaveRun σ n) :
    Prop where
  requests : r.log.requests = [flight.request]
  ending : r.ending = .abandoned ∨
    ∃ f, r.ending = .failed f ∧ f.kind ∈ [FaultClass.request, .transport, .decode]
  accepts : ∃ values : List (String × Value), (∀ x ∈ values, .generated i x.1 x.2 ∈ r.log) ∧
    ∀ j, r.entries.get j = if j = i then acceptAll (entries.get i) values else entries.get j

theorem EndsAt.of_unchanged {log : Log} {ending : Ending} {s : σ}
    (hlog : log.requests = [flight.request])
    (hending : ending = .abandoned ∨
      ∃ f, ending = .failed f ∧ f.kind ∈ [FaultClass.request, .transport, .decode]) :
    EndsAt i flight entries ⟨ending, entries, log, s⟩ := by
  refine ⟨hlog, hending, [], by simp, fun j => ?_⟩
  by_cases hj : j = i
  · rw [if_pos hj, hj]
    rfl
  · rw [if_neg hj]

theorem kind_of_readOutcome {op : Operation} {table : String} {o : Outcome} {x : Event × Fault}
    (h : readOutcome op table o = .error x) :
    x.2.kind ∈ [FaultClass.request, .transport, .decode] := by
  unfold readOutcome at h
  split at h
  · cases h
    simp [Fault.kind]
  · split at h
    · simp at h
    · cases h
      simp [Fault.kind]

theorem kind_of_readGenerated {m : Entity} {o : JsonMembers} {l : List Field} {f : Fault}
    (h : (readGenerated m o l).2 = some f) : f.kind = .decode := by
  induction l with
  | nil => simp [readGenerated] at h
  | cons field l ih =>
    unfold readGenerated at h
    split at h
    · exact ih h
    · split at h
      · cases h
        rfl
      · exact ih h

theorem kind_of_assignedValues {m : Entity} {w : Write} {r : Response} {f : Fault}
    (h : (assignedValues m w r).2 = some f) : f.kind = .decode := by
  unfold assignedValues at h
  split at h
  · simp at h
  · split at h
    next g hrow =>
      cases h
      unfold firstRow at hrow
      split at hrow
      · simp at hrow
      · split at hrow
        · simp at hrow
        · cases hrow
          rfl
    · simp at h
    · exact kind_of_readGenerated h

/-- A request that is not answered as it should be ends the run. -/
theorem endsAt_of_advance_none (hlaunch : launch d (entries.get i) = .ok flight)
    (h : patience = some 0 ∨ advance d i pending entries s = none) :
    EndsAt i flight entries (sendAll d summary (i :: pending) patience entries s) := by
  have hopening : flight.opening.requests = [flight.request] := rfl
  have hclosing (rows : Nat) : (flight.closing rows).requests = [] := rfl
  by_cases hpatience : patience = some 0
  · simp only [sendAll, hlaunch, hpatience, if_true]
    exact .of_unchanged (by rw [requests_append, hopening, hclosing, List.append_nil]) (.inl rfl)
  have hadvance := h.resolve_left hpatience
  -- Left are no response, and a response from which not all values can be read.
  simp only [sendAll, hlaunch, hpatience, if_false]
  simp only [advance, hlaunch] at hadvance
  split
  next event fault houtcome =>
    refine .of_unchanged ?_ (.inr ⟨fault, rfl, kind_of_readOutcome houtcome⟩)
    rw [requests_append, hopening]
    rfl
  next response houtcome =>
    simp only [houtcome] at hadvance
    split
    next fault hfault =>
      refine ⟨?_, .inr ⟨fault, rfl, by simp [kind_of_assignedValues hfault]⟩,
        (assignedValues flight.model flight.write response).1, ?_, fun j => get_set entries i j _⟩
      · rw [requests_append, requests_append, requests_generated, hopening, hclosing]
        rfl
      · intro x hx
        simp only [List.mem_append]
        exact .inl (.inr (mem_generated hx i))
    next hfault => simp [hfault] at hadvance

end step

/-- A run, told by what it sends. -/
inductive Course (d : Session σ) (summary : Summary) :
    List (Fin n) → Vector Entry n → List (Sending n) → SaveRun σ n → Prop
  | done {entries : Vector Entry n} {s : σ} :
    Course d summary [] entries [] ⟨.done summary, entries, [], s⟩
  | unready {i : Fin n} {pending : List (Fin n)} {entries : Vector Entry n} {s : σ} {f : Fault}
      (launch : launch d (entries.get i) = .error f) :
    Course d summary (i :: pending) entries [] ⟨.failed f, entries, [], s⟩
  | last {i : Fin n} {pending : List (Fin n)} {entries : Vector Entry n} {r : SaveRun σ n}
      {flight : InFlight} (launch : launch d (entries.get i) = .ok flight)
      (ends : EndsAt i flight entries r) :
    Course d summary (i :: pending) entries [⟨i, entries.get i, flight⟩] r
  | next {i : Fin n} {pending : List (Fin n)} {entries : Vector Entry n} {r : SaveRun σ n}
      {flight : InFlight} {l : List (Sending n)} {values : List (String × Value)} {log : Log}
      (launch : launch d (entries.get i) = .ok flight)
      (requests : log.requests = [flight.request])
      (generated : ∀ x ∈ values, .generated i x.1 x.2 ∈ log)
      (rest : Course d summary pending (settle d flight i values pending entries).1 l r) :
    Course d summary (i :: pending) entries (⟨i, entries.get i, flight⟩ :: l)
      (SaveRun.after log r)

theorem course_sendAll (d : Session σ) (summary : Summary) (pending : List (Fin n))
    (patience : Option Nat) (entries : Vector Entry n) (s : σ) :
    Course d summary pending entries (sendings d pending patience entries s)
      (sendAll d summary pending patience entries s) := by
  induction pending generalizing patience entries s with
  | nil => exact .done
  | cons i pending ih =>
    cases hlaunch : launch d (entries.get i) with
    | error f =>
      simp only [sendings, sendAll, hlaunch]
      exact .unready hlaunch
    | ok flight =>
      have hsendings : sendings d (i :: pending) patience entries s =
          ⟨i, entries.get i, flight⟩ ::
            if patience = some 0 then []
            else
              match advance d i pending entries s with
              | none => []
              | some (entries, s) => sendings d pending (patience.map (· - 1)) entries s := by
        simp only [sendings, hlaunch]
      -- The request is the last one unless its outcome is waited for and is a good one.
      by_cases hpatience : patience = some 0
      · rw [hsendings, if_pos hpatience]
        exact .last hlaunch (endsAt_of_advance_none hlaunch (.inl hpatience))
      rw [hsendings, if_neg hpatience]
      cases hadvance : advance d i pending entries s with
      | none => exact .last hlaunch (endsAt_of_advance_none hlaunch (.inr hadvance))
      | some next =>
        obtain ⟨entries', s'⟩ := next
        obtain ⟨flight', values, hlaunch', rfl, hsend⟩ :=
          sendAll_of_advance summary hpatience hadvance
        cases hlaunch.symm.trans hlaunch'
        rw [hsend]
        refine .next hlaunch ?_ ?_ (ih ..)
        · simp only [requests_append, requests_generated, settle, requests_passOn]
          rfl
        · intro x hx
          simp only [List.mem_append]
          exact .inl (.inl (.inr (mem_generated hx i)))

namespace Course

variable {l : List (Sending n)} {r : SaveRun σ n} {x : Sending n}

theorem requests_eq (h : Course d summary pending entries l r) :
    r.log.requests = l.map (·.flight.request) := by
  induction h with
  | done => rfl
  | unready => rfl
  | last _ ends => exact ends.requests
  | next _ hrequests _ _ ih =>
    rw [SaveRun.after, requests_append, hrequests, ih]
    rfl

/-- What is sent is a part of the plan from its start. -/
theorem positions (h : Course d summary pending entries l r) :
    l.map Sending.position <+: pending := by
  induction h with
  | done => exact List.nil_prefix
  | unready => exact List.nil_prefix
  | last => exact List.prefix_append [_] _
  | next _ _ _ _ ih => exact (List.prefix_cons_inj _).2 ih

theorem positions_of_done {q : Summary} (h : Course d summary pending entries l r)
    (hdone : r.ending = .done q) : l.map Sending.position = pending := by
  induction h with
  | done => rfl
  | unready => simp at hdone
  | last _ ends =>
    rcases ends.ending with h | ⟨f, h, -⟩
    · simp [h] at hdone
    · simp [h] at hdone
  | next _ _ _ _ ih => exact congrArg _ (ih hdone)

theorem launched (h : Course d summary pending entries l r) (hx : x ∈ l) :
    launch d x.entry = .ok x.flight := by
  induction h with
  | done => simp at hx
  | unready => simp at hx
  | last hlaunch =>
    cases List.mem_singleton.1 hx
    exact hlaunch
  | next hlaunch _ _ _ ih =>
    rcases List.mem_cons.1 hx with rfl | hx
    · exact hlaunch
    · exact ih hx

/-- An entry that is not to be sent stays as it is. -/
theorem get_of_not_mem (h : Course d summary pending entries l r) (hpending : pending.Nodup)
    (hj : j ∉ pending) : r.entries.get j = entries.get j := by
  induction h with
  | done => rfl
  | unready => rfl
  | last _ ends =>
    obtain ⟨values, -, hget⟩ := ends.accepts
    have hne := List.ne_of_not_mem_cons hj
    rw [hget, if_neg hne]
  | next _ _ _ _ ih =>
    have hne := List.ne_of_not_mem_cons hj
    have hnot := List.not_mem_of_not_mem_cons hj
    rw [SaveRun.after, ih (List.nodup_cons.1 hpending).2 hnot, get_settle hpending, if_neg hne,
      if_neg fun h => hnot h.1]

/-- Once an entry is sent, it only takes over what the store assigns to it. -/
theorem accepted (h : Course d summary pending entries l r) (hpending : pending.Nodup)
    (hx : x ∈ l) : ∃ values : List (String × Value),
      (∀ v ∈ values, .generated x.position v.1 v.2 ∈ r.log) ∧
        r.entries.get x.position = acceptAll x.entry values := by
  induction h with
  | done => simp at hx
  | unready => simp at hx
  | last _ ends =>
    cases List.mem_singleton.1 hx
    obtain ⟨values, hvalues, hget⟩ := ends.accepts
    exact ⟨values, hvalues, (hget _).trans (if_pos rfl)⟩
  | @next i pending entries r flight l values log _ _ hvalues hrest ih =>
    have hnodup := List.nodup_cons.1 hpending
    rcases List.mem_cons.1 hx with rfl | hx
    · refine ⟨values, fun v hv => List.mem_append_left _ (hvalues v hv), ?_⟩
      have hget := hrest.get_of_not_mem hnodup.2 hnodup.1
      rw [get_settle hpending, if_pos rfl] at hget
      exact hget
    · obtain ⟨values', hlog, hget⟩ := ih hnodup.2 hx
      exact ⟨values', fun v hv => List.mem_append_right _ (hlog v hv), hget⟩

theorem repointed_settle (hpending : (i :: pending).Nodup) (hj : j ≠ i) (flight : InFlight)
    (values : List (String × Value)) (entries : Vector Entry n) :
    Repointed d.schema (entries.get j) ((settle d flight i values pending entries).1.get j) := by
  rw [get_settle hpending, if_neg hj]
  split
  · exact repointed_repointAll ..
  · exact .refl

theorem position_mem (h : Course d summary pending entries l r) (hx : x ∈ l) :
    x.position ∈ pending :=
  h.positions.subset (List.mem_map_of_mem hx)

/-- Until an entry is sent, it only follows the keys of others. -/
theorem repointed (h : Course d summary pending entries l r) (hpending : pending.Nodup)
    (hx : x ∈ l) : Repointed d.schema (entries.get x.position) x.entry := by
  induction h with
  | done => simp at hx
  | unready => simp at hx
  | last =>
    cases List.mem_singleton.1 hx
    exact .refl
  | @next i pending entries r flight l values log _ _ _ hrest ih =>
    have hnodup := List.nodup_cons.1 hpending
    rcases List.mem_cons.1 hx with rfl | hx
    · exact .refl
    · have hne : x.position ≠ i := fun h => hnodup.1 (h ▸ hrest.position_mem hx)
      exact (repointed_settle hpending hne flight values entries).trans (ih hnodup.2 hx)

/-- A run fails with an outcome, or because no request can be made of an entry by its turn. -/
theorem failed {f : Fault} (h : Course d summary pending entries l r) (hpending : pending.Nodup)
    (hf : r.ending = .failed f) :
    f.kind ∈ [FaultClass.request, .transport, .decode] ∨
      ∃ i ∈ pending, ∃ e, Repointed d.schema (entries.get i) e ∧ launch d e = .error f := by
  induction h with
  | done => simp at hf
  | unready hlaunch =>
    cases hf
    exact .inr ⟨_, List.mem_cons_self, _, .refl, hlaunch⟩
  | last _ ends =>
    rcases ends.ending with h | ⟨g, h, hkind⟩
    · simp [h] at hf
    · cases hf.symm.trans h
      exact .inl hkind
  | @next i pending entries r flight l values log _ _ _ hrest ih =>
    have hnodup := List.nodup_cons.1 hpending
    rcases ih hnodup.2 hf with h | ⟨j, hj, e, he, hlaunch⟩
    · exact .inl h
    · have hne : j ≠ i := fun h => hnodup.1 (h ▸ hj)
      exact .inr ⟨j, List.mem_cons_of_mem _ hj, e,
        (repointed_settle hpending hne flight values entries).trans he, hlaunch⟩

end Course

theorem plan_eq_ok {p : Plan n} (h : (plan d entries).2 = .ok p) :
    Plan.ofBatch d.schema entries = .ok p ∧
      ∀ i ∈ p.order, ∃ m w, d.schema.get? (entries.get i).entity = some m ∧
        m.writeOf (entries.get i) = .ok w := by
  unfold plan at h
  cases hp : Plan.ofBatch d.schema entries with
  | error f => simp [hp] at h
  | ok q =>
    rw [hp] at h
    obtain ⟨u, hcheck, h⟩ := Except.bind_eq_ok.1 h
    cases h
    refine ⟨rfl, fun i hi => ?_⟩
    obtain ⟨m, hm, hi⟩ := Except.bind_eq_ok.1 (Except.forM_eq_ok hcheck i hi)
    obtain ⟨w, hw, -⟩ := Except.bind_eq_ok.1 hi
    exact ⟨m, w, modelOf_eq_ok.1 hm, hw⟩

theorem requests_plan (d : Session σ) (entries : Vector Entry n) :
    (plan d entries).1.requests = [] := by
  unfold plan
  split
  · rfl
  · simp [Log.requests, List.filterMap_map]

theorem nodup_order {p : Plan n} (h : Plan.ofBatch d.schema entries = .ok p) : p.order.Nodup :=
  (((Plan.ofBatch_sound h).complete.nodup_iff.2 (List.nodup_finRange n)).sublist
    (List.sublist_append_left _ _))

/-- Saving a batch either ends with the plan or is a run over its order. -/
theorem start_cases (d : Session σ) (patience : Option Nat) (entries : Vector Entry n) (s : σ) :
    (sent d patience entries s = [] ∧
      ∃ f, start d patience entries s = ⟨.failed f, entries, (plan d entries).1, s⟩) ∨
    ∃ p r, (plan d entries).2 = .ok p ∧
      start d patience entries s = SaveRun.after (plan d entries).1 r ∧
      Course d ⟨p.order.length, p.elided.length⟩ p.order entries (sent d patience entries s) r := by
  cases hplan : plan d entries with
  | mk log outcome =>
    cases outcome with
    | error f => exact .inl ⟨by simp [sent, hplan], f, by simp [start, hplan]⟩
    | ok p =>
      refine .inr ⟨p, _, rfl, by simp only [start, hplan]; rfl, ?_⟩
      simp only [sent, hplan]
      exact course_sendAll ..

theorem sent_eq {p : Plan n} (hplan : (plan d entries).2 = .ok p) :
    sent d patience entries s = sendings d p.order patience entries s := by
  simp only [sent, hplan]

theorem start_eq {p : Plan n} {log : Log} (hplan : plan d entries = (log, .ok p)) :
    start d patience entries s = SaveRun.after log
      (sendAll d ⟨p.order.length, p.elided.length⟩ p.order patience entries s) := by
  simp only [start, hplan]

/-- The requests of a run are those of the entries that it sends. -/
theorem requests_start (d : Session σ) (patience : Option Nat) (entries : Vector Entry n) (s : σ) :
    (start d patience entries s).log.requests =
      (sent d patience entries s).map (·.flight.request) := by
  rcases start_cases d patience entries s with ⟨hsent, f, hstart⟩ | ⟨p, r, -, hstart, hcourse⟩
  · rw [hsent, hstart]
    exact requests_plan d entries
  · rw [hstart, SaveRun.after, requests_append, requests_plan, hcourse.requests_eq]
    rfl

/-- A batch of which anything is sent has a plan, and the run follows its order. -/
theorem exists_course {x : Sending n} (hx : x ∈ sent d patience entries s) :
    ∃ p r, Plan.ofBatch d.schema entries = .ok p ∧
      start d patience entries s = SaveRun.after (plan d entries).1 r ∧
      Course d ⟨p.order.length, p.elided.length⟩ p.order entries (sent d patience entries s) r := by
  rcases start_cases d patience entries s with ⟨hsent, -⟩ | ⟨p, r, hplan, hstart, hcourse⟩
  · simp [hsent] at hx
  · exact ⟨p, r, (plan_eq_ok hplan).1, hstart, hcourse⟩

theorem launch_of_mem_sent {x : Sending n} (hx : x ∈ sent d patience entries s) :
    launch d x.entry = .ok x.flight := by
  obtain ⟨p, r, -, -, hcourse⟩ := exists_course hx
  exact hcourse.launched hx

theorem repointed_of_mem_sent {x : Sending n} (hx : x ∈ sent d patience entries s) :
    Repointed d.schema (entries.get x.position) x.entry := by
  obtain ⟨p, r, hbatch, -, hcourse⟩ := exists_course hx
  exact hcourse.repointed (nodup_order hbatch) hx

theorem accepted_of_mem_sent {x : Sending n} (hx : x ∈ sent d patience entries s) :
    ∃ values : List (String × Value),
      (∀ v ∈ values, .generated x.position v.1 v.2 ∈ (start d patience entries s).log) ∧
        (start d patience entries s).entries.get x.position = acceptAll x.entry values := by
  obtain ⟨p, r, hbatch, hstart, hcourse⟩ := exists_course hx
  obtain ⟨values, hlog, hget⟩ := hcourse.accepted (nodup_order hbatch) hx
  rw [hstart]
  exact ⟨values, fun v hv => List.mem_append_right _ (hlog v hv), hget⟩

/-- What a run comes to that ends well. -/
def summary? : Ending → Option Summary
  | .done q => some q
  | _ => none

theorem eq_done_of_summary? {e : Ending} {q : Summary} (h : summary? e = some q) : e = .done q := by
  cases e <;> simp [summary?] at h
  exact h ▸ rfl

/-- A transport that has its responses ready. -/
def scripted : Transport (List Response) where
  send
    | [], _ => (.error .timeout, [])
    | r :: replies, _ => (.ok r, replies)

def scriptedSession (schema : Schema) : Session (List Response) :=
  ⟨schema, .ofUrl ⟨"http", "", "", some (.name "localhost"), none, .segments [""], none, none⟩,
    scripted, true⟩

/-- Responses to inserts, each with the key that the store has assigned. -/
def assigning (keys : List String) : List Response :=
  keys.map fun key => ⟨201, ("[\x7b\"id\":\"" ++ key ++ "\"\x7d]").toUTF8⟩

end Save

end RemoteTable
