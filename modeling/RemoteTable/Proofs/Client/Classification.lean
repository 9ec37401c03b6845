import Mathlib
import RemoteTable.Client
import RemoteTable.Proofs.Client.LocalFaults
import RemoteTable.Proofs.Json.Members
import RemoteTable.Proofs.Load.Pass
import RemoteTable.Proofs.Save.Exchanges

/-!
Faults classified by what the server did. Every run ends at the first outcome that is no response of
success, so the fault of a run tells what its last outcome was.
-/

namespace RemoteTable

/-- A response of success. -/
def Succeeds (o : Outcome) : Prop := ∃ r, o = .ok r ∧ r.isSuccess = true

/-- The fault that a run ends with tells of the outcomes that it waited for: all were successes but
the last, which is the fault, or all of them, and then the fault is a local one. -/
inductive Told : List Outcome → Fault → Prop
  | undelivered {l : List Outcome} (e : SendError) (before : ∀ o ∈ l, Succeeds o) :
    Told (l ++ [.error e]) (.undelivered e)
  | rejected {l : List Outcome} {r : Response} (before : ∀ o ∈ l, Succeeds o)
      (status : r.isSuccess = false) : Told (l ++ [.ok r]) (.rejected (.ofResponse r))
  | ofLocal {l : List Outcome} {f : Fault} (all : ∀ o ∈ l, Succeeds o) (kind : f.IsLocal) : Told l f

namespace Told

variable {l : List Outcome} {f : Fault}

theorem cons {o : Outcome} (ho : Succeeds o) (h : Told l f) : Told (o :: l) f := by
  cases h with
  | undelivered e before => exact .undelivered e (List.forall_mem_cons.2 ⟨ho, before⟩)
  | rejected before status => exact .rejected (List.forall_mem_cons.2 ⟨ho, before⟩) status
  | ofLocal all kind => exact .ofLocal (List.forall_mem_cons.2 ⟨ho, all⟩) kind

theorem of_refused {op : Operation} {table : String} {o : Outcome} {event : Event}
    (h : readOutcome op table o = .error (event, f)) : Told [o] f := by
  cases o with
  | error e =>
    cases h
    exact .undelivered (l := []) e (by simp)
  | ok r =>
    rw [readOutcome] at h
    split at h
    · cases h
    next hstatus =>
      cases h
      exact .rejected (l := []) (by simp) (by simpa using hstatus)

end Told

namespace Save

variable {σ : Type} {n : Nat} {d : Session σ} {summary : Summary} {pending : List (Fin n)}
  {entries : Vector Entry n} {l : List (Sending n)} {outcomes : List Outcome} {run : SaveRun σ n}
  {s : σ} {f : Fault}

theorem Dialogue.told (h : Dialogue d summary pending entries l outcomes run)
    (hf : run.ending = .failed f) : Told outcomes f := by
  induction h with
  | done => cases hf
  | unready launch =>
    cases hf
    exact .ofLocal (by simp) (failsBy_launch d _ f launch)
  | abandoned => cases hf
  | refused launch outcome =>
    cases hf
    exact .of_refused outcome
  | unreadable launch success assigned =>
    cases hf
    have hkind := kind_of_assignedValues (congrArg Prod.snd assigned)
    refine .ofLocal ?_ (Fault.isLocal_of_kind hkind (by decide))
    intro o ho
    exact ⟨_, List.mem_singleton.1 ho, success⟩
  | next launch success assigned rest ih => exact (ih hf).cons ⟨_, rfl, success⟩

theorem told_start {patience : Option Nat} (h : (start d patience entries s).ending = .failed f) :
    Told (awaited patience
      (d.transport.outcomes s (start d patience entries s).log.requests)) f := by
  rw [requests_start]
  cases hplan : plan d entries with
  | mk log planned =>
    cases planned with
    | error f' =>
      have hfault : f = f' := by
        rw [start, hplan] at h
        cases h
        rfl
      rw [sent, hplan, List.map_nil, Transport.outcomes, awaited_nil]
      refine .ofLocal (by simp) (failsBy_plan d entries f ?_)
      rw [hplan, hfault]
    | ok p =>
      rw [start_eq hplan] at h
      rw [sent_eq (congrArg Prod.snd hplan)]
      exact (dialogue_sendAll ..).told h

/-- A saved batch that has failed tells of the outcomes that it waited for. -/
theorem told_saveWithin {polls : Option Nat}
    (h : (saveWithin d polls entries s).ending = .failed f) :
    Told (replies d polls entries s) f := by
  cases polls with
  | none => exact told_start h
  | some polls =>
    cases polls with
    | zero => cases h
    | succ polls => exact told_start h

end Save

namespace Load

variable {σ α : Type} {t : Transport σ} {e : Endpoint} {q : PreparedQuery} {bag : Bag} {s : σ}
  {f : Fault}

/-- What is fetched is rows, after responses of success only, or the fault that tells what came. -/
inductive Fetched (outcomes : List Outcome) : Except Fault (List JsonMembers) → Prop
  | rows {rows : List JsonMembers} (all : ∀ o ∈ outcomes, Succeeds o) : Fetched outcomes (.ok rows)
  | fault {f : Fault} (told : Told outcomes f) : Fetched outcomes (.error f)

theorem fetched_receive (c : Cursor) (o : Outcome) : Fetched [o] (c.receive o).2 := by
  cases houtcome : readOutcome .load c.table o with
  | error x =>
    simp only [Cursor.receive, houtcome]
    exact .fault (.of_refused houtcome)
  | ok response =>
    obtain ⟨rfl, hsuccess⟩ := readOutcome_eq_ok.1 houtcome
    have hall : ∀ o ∈ [(.ok response : Outcome)], Succeeds o := by
      intro o ho
      exact ⟨response, List.mem_singleton.1 ho, hsuccess⟩
    cases hbody : Row.objectsOf response.body with
    | error e =>
      simp only [Cursor.receive, houtcome, hbody]
      exact .fault (.ofLocal hall trivial)
    | ok rows =>
      simp only [Cursor.receive, houtcome, hbody]
      exact .rows hall

theorem fetched (c : Cursor) (t : Transport σ) (s : σ) :
    Fetched (t.outcomes s (c.fetch t s).2.1.requests) (c.fetch t s).1 := by
  cases hrequest : c.request with
  | error f =>
    have hfetch : c.fetch t s = (.error f, [], s) := by simp only [Cursor.fetch, hrequest]
    rw [hfetch]
    exact .fault (.ofLocal (List.forall_mem_nil _)
      (c.query.failsBy_request c.endpoint c.bag f hrequest))
  | ok r =>
    have hrequests : (c.fetch t s).2.1.requests = [r] := by
      simp only [Cursor.fetch, hrequest, Cursor.requests_opening, Cursor.requests_receive]
    have hresult : (c.fetch t s).1 = (c.receive (t.send s r).1).2 := by
      simp only [Cursor.fetch, hrequest]
    rw [hrequests, hresult]
    exact fetched_receive c (t.send s r).1

theorem told_drain {g : Cursor → List JsonMembers → Except Fault (List α)}
    (hg : ∀ c rows, (g c rows).FailsBy Fault.IsLocal) (h : (drain t e q bag s g).1 = .error f) :
    Told (t.outcomes s (drain t e q bag s g).2.1.requests) f := by
  have hfetched := fetched (Cursor.start q e bag) t s
  rw [drain] at h ⊢
  generalize (Cursor.start q e bag).fetch t s = fetched at h hfetched ⊢
  obtain ⟨result, log, s'⟩ := fetched
  cases hfetched with
  | rows all => exact .ofLocal all ((hg _ _).map _ f h)
  | fault told =>
    cases h
    exact told

theorem told_fetchAs {d : Delivery} {target : Target α}
    (h : (fetchAs d target t e q bag s).1 = .error f) :
    Told (t.outcomes s (fetchAs d target t e q bag s).2.1.requests) f := by
  refine told_drain (fun c rows => ?_) h
  cases d with
  | blocking => exact .mapM (fun o => (c.failsBy_shape o).bind (failsBy_readShaped target)) rows
  | async =>
    apply (Except.FailsBy.mapM c.failsBy_shape rows).bind
    exact Except.FailsBy.mapM (failsBy_readShaped target)

end Load

section classified

/-- The responses among some outcomes. -/
def received (l : List Outcome) : List Response := l.filterMap Except.toOption

/-- A status of success. -/
def Response.HasSuccess (r : Response) : Prop := 200 ≤ r.status ∧ r.status ≤ 299

/-- The body is an object that holds a text under a name. -/
def Response.Says (r : Response) (name s : String) : Prop :=
  ∃ members, Json.ofBytes? r.body = some (.object members) ∧ (name, .string s) ∈ members

/-- What is told of a response of failure is its status, and the texts that its body holds. -/
structure Rejection.Describes (x : Rejection) (r : Response) : Prop where
  status : x.status = r.status
  message : ∀ s, x.message = some s ↔ r.Says "message" s
  details : ∀ s, x.details = some s ↔ r.Says "details" s
  hint : ∀ s, x.hint = some s ↔ r.Says "hint" s
  code : ∀ s, x.code = some s ↔ r.Says "code" s

/-- A fault that is classified by the outcomes of a run: a rejection if the last response is one of
failure, a failure to deliver if the last outcome is one, and otherwise neither, after responses of
success only. -/
structure Classified (outcomes : List Outcome) (f : Fault) : Prop where
  request : f.kind = .request ↔ ∃ r, (received outcomes).getLast? = some r ∧ ¬ r.HasSuccess
  rejection : ∀ r, (received outcomes).getLast? = some r → ¬ r.HasSuccess →
    ∃ x, f.rejection? = some x ∧ x.Describes r
  transport : f.kind = .transport ↔ ∃ e, outcomes.getLast? = some (.error e)
  message : ∀ e, outcomes.getLast? = some (.error e) → f.message = e.message
  otherwise : f.kind ≠ .request →
    f.rejection? = none ∧ ∀ r ∈ received outcomes, r.HasSuccess

variable {l : List Outcome} {f : Fault} {r : Response}

theorem Response.isSuccess_eq_true : r.isSuccess = true ↔ r.HasSuccess := by
  rw [isSuccess_iff, HasSuccess]
  omega

theorem hasSuccess_of_mem (h : ∀ o ∈ l, Succeeds o) (hr : r ∈ received l) : r.HasSuccess := by
  obtain ⟨o, ho, hor⟩ := List.mem_filterMap.1 hr
  obtain ⟨r', rfl, hsuccess⟩ := h o ho
  cases hor
  exact Response.isSuccess_eq_true.1 hsuccess

theorem Response.text_eq_some_iff (r : Response) (name s : String) :
    (match (match Json.ofBytes? r.body with
        | some (.object members) => members
        | _ => ([] : JsonMembers)).lookup name with
      | some (.string s) => some s
      | _ => none) = some s ↔ r.Says name s := by
  rw [Says]
  cases hbody : Json.ofBytes? r.body with
  | none => simp
  | some j =>
    cases j with
    | object members =>
      -- a member is found under its name, as no other has that name
      have hmember : members.lookup name = some (.string s) ↔ (name, .string s) ∈ members :=
        Json.lookup_eq_some_iff (Json.ascending_of_ofBytes? hbody)
      simp only [Option.some.injEq, Json.object.injEq, exists_eq_left', ← hmember]
      cases members.lookup name with
      | none => simp
      | some value => cases value <;> simp
    | _ => simp

theorem Rejection.describes_ofResponse (r : Response) : (Rejection.ofResponse r).Describes r := by
  constructor
  · rfl
  · exact r.text_eq_some_iff "message"
  · exact r.text_eq_some_iff "details"
  · exact r.text_eq_some_iff "hint"
  · exact r.text_eq_some_iff "code"

example : Rejection.ofResponse
    ⟨409, "\x7b\"message\":\"taken\",\"code\":23505\x7d".toUTF8⟩ =
      ⟨409, some "taken", none, none, none⟩ := by decide +kernel

theorem received_append_error (l : List Outcome) (e : SendError) :
    received (l ++ [.error e]) = received l := by
  simp [received, Except.toOption]

theorem received_append_ok (l : List Outcome) (r : Response) :
    received (l ++ [.ok r]) = received l ++ [r] := by
  simp [received, Except.toOption]

theorem Fault.rejection?_of_kind_ne (h : f.kind ≠ .request) : f.rejection? = none := by
  cases f with
  | rejected => exact absurd rfl h
  | _ => rfl

/-- Without a rejection there are responses of success only, and the last outcome decides. -/
theorem Classified.of_unrejected (hkind : f.kind ≠ .request)
    (hreceived : ∀ r ∈ received l, r.HasSuccess)
    (htransport : f.kind = .transport ↔ ∃ e, l.getLast? = some (.error e))
    (hmessage : ∀ e, l.getLast? = some (.error e) → f.message = e.message) : Classified l f := by
  have hlast : ∀ r, (received l).getLast? = some r → r.HasSuccess :=
    fun r hr => hreceived r (List.mem_of_getLast? hr)
  constructor
  · constructor
    · intro h
      exact absurd h hkind
    · intro h
      obtain ⟨r, hr, hfailure⟩ := h
      exact absurd (hlast r hr) hfailure
  · intro r hr hfailure
    exact absurd (hlast r hr) hfailure
  · exact htransport
  · exact hmessage
  · intro h
    exact ⟨Fault.rejection?_of_kind_ne h, hreceived⟩

theorem Told.classified (h : Told l f) : Classified l f := by
  cases h with
  | @undelivered l e before =>
    have hlast (e' : SendError) :
        (l ++ [(.error e : Outcome)]).getLast? = some (.error e') ↔ e = e' := by simp
    apply Classified.of_unrejected
    · simp [Fault.kind]
    · rw [received_append_error]
      exact fun r => hasSuccess_of_mem before
    · simp only [hlast]
      exact ⟨fun _ => ⟨e, rfl⟩, fun _ => rfl⟩
    · intro e' he
      rw [← (hlast e').1 he]
      rfl
  | @rejected l r before status =>
    have hfailure : ¬ r.HasSuccess := by
      rw [← Response.isSuccess_eq_true, status]
      exact Bool.false_ne_true
    have hlast (r' : Response) : (received (l ++ [.ok r])).getLast? = some r' ↔ r = r' := by
      simp [received_append_ok]
    constructor
    · simp only [hlast]
      exact ⟨fun _ => ⟨r, rfl, hfailure⟩, fun _ => rfl⟩
    · intro r' hr _
      rw [← (hlast r').1 hr]
      exact ⟨_, rfl, Rejection.describes_ofResponse r⟩
    · simp [Fault.kind]
    · simp
    · intro h
      exact absurd rfl h
  | ofLocal all kind =>
    have hlast : ∀ e, l.getLast? ≠ some (.error e) := by
      intro e he
      obtain ⟨r, hr, -⟩ := all _ (List.mem_of_getLast? he)
      cases hr
    apply Classified.of_unrejected kind.kind_ne.1
    · exact fun r => hasSuccess_of_mem all
    · constructor
      · intro h
        exact absurd h kind.kind_ne.2
      · intro h
        obtain ⟨e, he⟩ := h
        exact absurd he (hlast e)
    · intro e he
      exact absurd he (hlast e)

end classified

namespace Client

variable {σ : Type}

/-- What the client saves batches with; `repoints` tells whether its entries follow the keys of
others. -/
def session (c : Client σ) (repoints : Bool) : Session σ :=
  ⟨c.schema, c.endpoint, c.transport, repoints⟩

/-- A run of the client fails, after some outcomes: rows that are fetched, as they are shaped or
read into a type, or a batch that is saved, to its end or as far as it is polled. -/
inductive Fails (c : Client σ) (s : σ) : List Outcome → Fault → Prop
  | fetch {q : PreparedQuery} {bag : Bag} {f : Fault} (result : (c.fetch q bag s).1 = .error f) :
    Fails c s (c.transport.outcomes s (c.fetch q bag s).2.1.requests) f
  | fetchAs {α : Type} {d : Delivery} {target : Target α} {q : PreparedQuery} {bag : Bag}
      {f : Fault} (result : (c.fetchAs d target q bag s).1 = .error f) :
    Fails c s (c.transport.outcomes s (c.fetchAs d target q bag s).2.1.requests) f
  | save {n : Nat} {repoints : Bool} {polls : Option Nat} {entries : Vector Entry n} {f : Fault}
      (ending : (Save.saveWithin (c.session repoints) polls entries s).ending = .failed f) :
    Fails c s (Save.replies (c.session repoints) polls entries s) f

/-- The fault of a run is classified by what the server did. -/
theorem classified_of_fails (c : Client σ) (s : σ) (outcomes : List Outcome) (f : Fault)
    (h : c.Fails s outcomes f) : Classified outcomes f := by
  apply Told.classified
  cases h with
  | fetch result => exact Load.told_drain (fun c rows => .mapM c.failsBy_shape rows) result
  | fetchAs result => exact Load.told_fetchAs result
  | save ending => exact Save.told_saveWithin ending

/-- A client of people and tags, whose responses are ready. -/
def scripted : Client (List Response) :=
  ⟨Save.scripted, Save.catalogue, (Save.scriptedSession Save.catalogue).endpoint, none⟩

/-- Two new people, of whom the second has the name of the first. -/
def namesakes : Vector Entry 2 :=
  #v[((Entry.start "Person" .added).assignTemporary "Id" (.text "a")).assign "Name" (.text "Ada"),
    ((Entry.start "Person" .added).assignTemporary "Id" (.text "b")).assign "Name" (.text "Ada")]

/-- The first person is taken over, and the second is refused. -/
def takenName : List Response :=
  [⟨201, "[\x7b\"id\":\"p1\"\x7d]".toUTF8⟩, ⟨409, "\x7b\"message\":\"taken\"\x7d".toUTF8⟩]

/-- What is told of the second person is the status and the message of the refusal. -/
theorem classified_takenName :
    scripted.Fails takenName
        (Save.replies (scripted.session true) none namesakes takenName)
        (.rejected ⟨409, some "taken", none, none, none⟩) ∧
      Classified (Save.replies (scripted.session true) none namesakes takenName)
        (.rejected ⟨409, some "taken", none, none, none⟩) := by
  have hfails : scripted.Fails takenName
      (Save.replies (scripted.session true) none namesakes takenName)
      (.rejected ⟨409, some "taken", none, none, none⟩) := by
    apply Fails.save
    cbv
  exact ⟨hfails, classified_of_fails scripted takenName _ _ hfails⟩

end Client

end RemoteTable
