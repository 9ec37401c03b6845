import Mathlib
import RemoteTable.Proofs.Json.Reading
import RemoteTable.Proofs.Save.Frame

/-!
What an entry takes over from the response to its insert or update. The generated fields of the
first row are read one after another and each value is taken over at once, so that a field that
cannot be read leaves behind what the fields before it have said.
-/

namespace RemoteTable

namespace Save

open Repoint

/-- What an object holds for a field, if it holds anything, is a value of the kind of the field. -/
def Legible (o : JsonMembers) (f : Field) : Prop :=
  ∀ j, Row.memberFor o f = some j → ∃ v, Value.ofJson f.kind j = .ok v

/-- An object holds nothing for a property. -/
def Silent (o : JsonMembers) (fields : List Field) (q : String) : Prop :=
  ∀ f ∈ fields, f.name = q → Row.memberFor o f = none

/-- The last field of a property that an object holds anything for has this value. -/
def Says (o : JsonMembers) (fields : List Field) (q : String) (v : Value) : Prop :=
  ∃ before f after j, fields = before ++ f :: after ∧ f.name = q ∧ Row.memberFor o f = some j ∧
    Value.ofJson f.kind j = .ok v ∧ Silent o after q

/-- An entry takes over what an object says about some fields: those values are current and stored
and no stand-ins, whether a property counts as changed stays as it was, and a property that the
object says nothing about is left alone. -/
structure TakesOver (o : JsonMembers) (fields : List Field) (e e' : Entry) : Prop where
  entity : e'.entity = e.entity
  state : e'.state = e.state
  silent (q : String) : Silent o fields q → e'.slot q = e.slot q
  said (q : String) : ¬ Silent o fields q →
    ∃ v, Says o fields q v ∧ e'.slot q = ⟨v, v, e.isChanged q, false⟩

/-- What a response of success does to the entry that was inserted or updated, and the fault in the
response if there is one. A body that cannot be read as rows changes nothing; but a value that
cannot be read comes too late for the values before it. -/
inductive WrittenBack (m : Entity) (r : Response) (e : Entry) : Entry → Option Fault → Prop
  | blank (body : r.body.toList.all Text.isAsciiBlank = true) : WrittenBack m r e e none
  | noRow (body : Row.Splits r.body (.ok [])) : WrittenBack m r e e none
  | notRows {err : BodyError} (filled : r.body.toList.all Text.isAsciiBlank = false)
      (body : Row.Splits r.body (.error err)) :
    WrittenBack m r e e (some (.badBody .mutation err))
  | row {e' : Entry} {o : JsonMembers} {rows : List JsonMembers}
      (body : Row.Splits r.body (.ok (o :: rows)))
      (legible : ∀ f ∈ m.generatedFields, Legible o f)
      (takesOver : TakesOver o m.generatedFields e e') : WrittenBack m r e e' none
  | upTo {e' : Entry} {o : JsonMembers} {rows : List JsonMembers} {before after : List Field}
      {f : Field} {j : Json} {err : DecodeError} (body : Row.Splits r.body (.ok (o :: rows)))
      (split : m.generatedFields = before ++ f :: after) (legible : ∀ g ∈ before, Legible o g)
      (member : Row.memberFor o f = some j) (value : Value.ofJson f.kind j = .error err)
      (takesOver : TakesOver o before e e') :
    WrittenBack m r e e' (some (.badField .mutation m.name f.name err))

section fields

variable {o : JsonMembers} {l l' : List Field} {f : Field} {q : String} {v : Value} {j : Json}
  {m : Entity}

@[simp] theorem silent_nil : Silent o [] q := by
  simp [Silent]

@[simp] theorem silent_cons : Silent o (f :: l) q ↔
    (f.name = q → Row.memberFor o f = none) ∧ Silent o l q :=
  List.forall_mem_cons

theorem Says.cons (h : Says o l q v) : Says o (f :: l) q v := by
  obtain ⟨before, g, after, j, rfl, hrest⟩ := h
  exact ⟨f :: before, g, after, j, rfl, hrest⟩

/-- The values that an object holds for some fields. -/
def returned (o : JsonMembers) : List Field → List (String × Value)
  | [] => []
  | f :: l =>
    match (Row.memberFor o f).map (Value.ofJson f.kind) with
    | some (.ok v) => (f.name, v) :: returned o l
    | _ => returned o l

theorem returned_cons_of_none (h : Row.memberFor o f = none) :
    returned o (f :: l) = returned o l := by
  simp only [returned, h, Option.map_none]

theorem returned_cons_of_ok (h : Row.memberFor o f = some j) (hv : Value.ofJson f.kind j = .ok v) :
    returned o (f :: l) = (f.name, v) :: returned o l := by
  simp only [returned, h, Option.map_some, hv]

/-- Fields that can be read do not keep the ones after them from being read. -/
theorem readGenerated_append (h : ∀ f ∈ l, Legible o f) :
    readGenerated m o (l ++ l') =
      (returned o l ++ (readGenerated m o l').1, (readGenerated m o l').2) := by
  induction l with
  | nil => rfl
  | cons f l ih =>
    obtain ⟨hf, hl⟩ := List.forall_mem_cons.1 h
    rw [List.cons_append, readGenerated]
    cases hmember : Row.memberFor o f with
    | none => rw [returned_cons_of_none hmember, ih hl]
    | some j =>
      obtain ⟨v, hv⟩ := hf j hmember
      simp only [hv, ih hl, returned_cons_of_ok hmember hv, List.cons_append]

theorem readGenerated_of_legible (h : ∀ f ∈ l, Legible o f) :
    readGenerated m o l = (returned o l, none) := by
  have happend : readGenerated m o (l ++ []) = _ := readGenerated_append h
  simpa [readGenerated] using happend

/-- Reading goes on to the first field that cannot be read. -/
theorem readGenerated_upTo {err : DecodeError} (h : ∀ f ∈ l, Legible o f)
    (hmember : Row.memberFor o f = some j) (hvalue : Value.ofJson f.kind j = .error err) :
    readGenerated m o (l ++ f :: l') =
      (returned o l, some (.badField .mutation m.name f.name err)) := by
  have hstop : readGenerated m o (f :: l') =
      ([], some (.badField .mutation m.name f.name err)) := by
    simp only [readGenerated, hmember, hvalue]
  rw [readGenerated_append h, hstop, List.append_nil]

/-- All fields can be read, or there is a first one that cannot. -/
theorem legible_or_exists_first (o : JsonMembers) (l : List Field) :
    (∀ f ∈ l, Legible o f) ∨ ∃ before f after j err, l = before ++ f :: after ∧
      (∀ g ∈ before, Legible o g) ∧ Row.memberFor o f = some j ∧
        Value.ofJson f.kind j = .error err := by
  induction l with
  | nil => exact .inl (by simp)
  | cons f l ih =>
    by_cases hf : Legible o f
    · rcases ih with hl | ⟨before, g, after, j, err, rfl, hbefore, hrest⟩
      · exact .inl (List.forall_mem_cons.2 ⟨hf, hl⟩)
      · exact .inr ⟨f :: before, g, after, j, err, rfl, List.forall_mem_cons.2 ⟨hf, hbefore⟩, hrest⟩
    · obtain ⟨j, hj, hvalue⟩ : ∃ j, Row.memberFor o f = some j ∧
          ∀ v, Value.ofJson f.kind j ≠ .ok v := by
        simpa [Legible] using hf
      cases herr : Value.ofJson f.kind j with
      | ok v => exact absurd herr (hvalue v)
      | error err => exact .inr ⟨[], f, l, j, err, rfl, by simp, hj, herr⟩

namespace TakesOver

variable {e e' : Entry}

theorem nil : TakesOver o [] e e :=
  ⟨rfl, rfl, fun _ _ => rfl, fun _ h => absurd silent_nil h⟩

/-- A field that the object holds nothing for makes no difference. -/
theorem cons_of_none (hmember : Row.memberFor o f = none) (h : TakesOver o l e e') :
    TakesOver o (f :: l) e e' where
  entity := h.entity
  state := h.state
  silent q hq := h.silent q (silent_cons.1 hq).2
  said q hq := by
    have hl : ¬ Silent o l q := fun hl => hq (silent_cons.2 ⟨fun _ => hmember, hl⟩)
    exact (h.said q hl).imp fun _ hv => ⟨hv.1.cons, hv.2⟩

/-- A value is taken over, unless a later field of the property replaces it. -/
theorem cons_of_ok (hmember : Row.memberFor o f = some j) (hv : Value.ofJson f.kind j = .ok v)
    (h : TakesOver o l (e.accept f.name v) e') : TakesOver o (f :: l) e e' where
  entity := h.entity
  state := h.state
  silent q hq := by
    obtain ⟨hf, hl⟩ := silent_cons.1 hq
    have hne : q ≠ f.name := by
      rintro rfl
      simp [hmember] at hf
    rw [h.silent q hl, Entry.slot_accept, if_neg hne]
  said q hq := by
    have hchanged : (e.accept f.name v).isChanged q = e.isChanged q := by
      by_cases hname : q = f.name <;> simp [Entry.isChanged, hname]
    by_cases hl : Silent o l q
    · have hname : q = f.name := by
        by_contra hne
        exact hq (silent_cons.2 ⟨fun h => absurd h.symm hne, hl⟩)
      refine ⟨v, ⟨[], f, l, j, rfl, hname.symm, hmember, hv, hl⟩, ?_⟩
      rw [h.silent q hl, Entry.slot_accept, if_pos hname, hname]
      rfl
    · obtain ⟨w, hw, hslot⟩ := h.said q hl
      exact ⟨w, hw.cons, hchanged ▸ hslot⟩

theorem of_returned (h : ∀ f ∈ l, Legible o f) (e : Entry) :
    TakesOver o l e (acceptAll e (returned o l)) := by
  induction l generalizing e with
  | nil => exact nil
  | cons f l ih =>
    obtain ⟨hf, hl⟩ := List.forall_mem_cons.1 h
    cases hmember : Row.memberFor o f with
    | none =>
      rw [returned_cons_of_none hmember]
      exact (ih hl e).cons_of_none hmember
    | some j =>
      obtain ⟨v, hv⟩ := hf j hmember
      rw [returned_cons_of_ok hmember hv, acceptAll_cons]
      exact (ih hl (e.accept f.name v)).cons_of_ok hmember hv

end TakesOver

/-- A response of success has its values written back, up to the fault in it. -/
theorem writtenBack_assignedValues {w : Write} (hw : w ≠ .delete) (m : Entity) (r : Response)
    (e : Entry) : WrittenBack m r e (acceptAll e (assignedValues m w r).1)
      (assignedValues m w r).2 := by
  simp only [assignedValues, hw, if_false]
  cases hfilled : r.body.toList.all Text.isAsciiBlank with
  | true =>
    simp only [firstRow, hfilled, if_true]
    exact .blank hfilled
  | false =>
    have hbody := Row.splits_objectsOf r.body
    rw [firstRow_eq hfilled]
    cases hrows : Row.objectsOf r.body with
    | error err => exact .notRows hfilled (hrows ▸ hbody)
    | ok rows =>
      rw [hrows] at hbody
      cases rows with
      | nil => exact .noRow hbody
      | cons o rows =>
        simp only [List.head?_cons]
        rcases legible_or_exists_first o m.generatedFields with
          h | ⟨before, f, after, j, err, hsplit, h, hmember, hvalue⟩
        · rw [readGenerated_of_legible h]
          exact .row hbody h (.of_returned h e)
        · rw [hsplit, readGenerated_upTo h hmember hvalue]
          exact .upTo hbody hsplit h hmember hvalue (.of_returned h e)

end fields

section run

variable {σ : Type} {n : Nat} {d : Session σ} {summary : Summary} {pending : List (Fin n)}
  {entries : Vector Entry n} {l : List (Sending n)} {outcomes : List Outcome} {run : SaveRun σ n}
  {patience : Option Nat} {s : σ} {a : Nat} {x : Sending n} {r : Response}

/-- What the response to the request number `a` means for the run: with a fault it is the last one
and the run has failed with the fault. Without one, the run goes on: something else is sent, or all
has been sent, or of the next entry no request can be made. -/
inductive Concludes (d : Session σ) (l : List (Sending n)) (a : Nat) (run : SaveRun σ n) :
    Option Fault → Prop
  | fails {f : Fault} (ending : run.ending = .failed f) (last : l.length = a + 1) :
    Concludes d l a run (some f)
  | sends (more : a + 1 < l.length) : Concludes d l a run none
  | done {q : Summary} (ending : run.ending = .done q) : Concludes d l a run none
  | unready {i : Fin n} {f : Fault} (launch : launch d (run.entries.get i) = .error f)
      (ending : run.ending = .failed f) : Concludes d l a run none

theorem Concludes.after {fault : Option Fault} (log : Log) (h : Concludes d l a run fault) :
    Concludes d l a (SaveRun.after log run) fault := by
  cases h with
  | fails ending last => exact .fails ending last
  | sends more => exact .sends more
  | done ending => exact .done ending
  | unready launch ending => exact .unready launch ending

namespace Dialogue

/-- An entry that is not to be sent stays as it is. -/
theorem get_of_not_mem (h : Dialogue d summary pending entries l outcomes run)
    (hpending : pending.Nodup) {j : Fin n} (hj : j ∉ pending) :
    run.entries.get j = entries.get j := by
  induction h with
  | done => rfl
  | unready => rfl
  | abandoned => rfl
  | refused => rfl
  | unreadable => rw [get_set, if_neg (List.ne_of_not_mem_cons hj)]
  | next _ _ _ _ ih =>
    have hne := List.ne_of_not_mem_cons hj
    have hnot := List.not_mem_of_not_mem_cons hj
    rw [SaveRun.after, ih (List.nodup_cons.1 hpending).2 hnot, get_settle hpending, if_neg hne,
      if_neg fun h => hnot h.1]

/-- The dialogue from one of its outcomes on. -/
theorem exists_from {o : Outcome} (h : Dialogue d summary pending entries l outcomes run)
    (hpending : pending.Nodup) (hx : l[a]? = some x) (ho : outcomes[a]? = some o) :
    ∃ i later entries' l' outcomes' log run', (i :: later).Nodup ∧
      Dialogue d summary (i :: later) entries' (x :: l') (o :: outcomes') run' ∧
      l.length = l'.length + (a + 1) ∧ run = SaveRun.after log run' := by
  induction a generalizing pending entries l outcomes run with
  | zero =>
    obtain _ | ⟨y, l⟩ := l
    · simp at hx
    obtain _ | ⟨o', outcomes⟩ := outcomes
    · simp at ho
    cases hx
    cases ho
    obtain _ | ⟨i, later⟩ := pending
    · cases h
    exact ⟨i, later, entries, l, outcomes, [], run, hpending, h, rfl, rfl⟩
  | succ a ih =>
    cases h with
    | @next _ _ _ run _ log _ _ _ _ _ _ _ rest =>
      obtain ⟨i, later, entries', l', outcomes', log', run', hnodup, hfrom, hlength, rfl⟩ :=
        ih rest (List.nodup_cons.1 hpending).2 hx ho
      refine ⟨i, later, entries', l', outcomes', log ++ log', run', hnodup, hfrom,
        congrArg (· + 1) hlength, ?_⟩
      simp only [SaveRun.after, List.append_assoc]
    | _ => simp at ho

/-- An entry that is answered takes over what the response assigns, and is not touched again. -/
theorem get_eq_acceptAll (h : Dialogue d summary pending entries l outcomes run)
    (hpending : pending.Nodup) (hx : l[a]? = some x) (hr : outcomes[a]? = some (.ok r))
    (hsuccess : r.isSuccess = true) :
    run.entries.get x.position =
      acceptAll x.entry (assignedValues x.flight.model x.flight.write r).1 := by
  obtain ⟨i, later, entries', l', outcomes', log, run', hnodup, hfrom, -, rfl⟩ :=
    h.exists_from hpending hx hr
  cases hfrom with
  | refused _ houtcome => simp [readOutcome, hsuccess] at houtcome
  | unreadable _ _ hvalues =>
    rw [hvalues]
    exact (get_set ..).trans (if_pos rfl)
  | next _ _ hvalues hrest =>
    rw [hvalues]
    obtain ⟨hi, hlater⟩ := List.nodup_cons.1 hnodup
    have hget := hrest.get_of_not_mem hlater hi
    rwa [get_settle hnodup, if_pos rfl] at hget

/-- The fault of a response is the fault of the run. -/
theorem concludes (h : Dialogue d summary pending entries l outcomes run)
    (hpending : pending.Nodup) (hx : l[a]? = some x) (hr : outcomes[a]? = some (.ok r))
    (hsuccess : r.isSuccess = true) :
    Concludes d l a run (assignedValues x.flight.model x.flight.write r).2 := by
  obtain ⟨i, later, entries', l', outcomes', log, run', -, hfrom, hlength, rfl⟩ :=
    h.exists_from hpending hx hr
  apply Concludes.after
  cases hfrom with
  | refused _ houtcome => simp [readOutcome, hsuccess] at houtcome
  | unreadable _ _ hvalues =>
    rw [hvalues]
    exact .fails rfl (by simpa using hlength)
  | next _ _ hvalues hrest =>
    rw [hvalues]
    -- Nothing more is sent only if nothing is left, or if the next entry is not ready.
    cases hrest with
    | done => exact .done rfl
    | unready hlaunch => exact .unready hlaunch rfl
    | _ => exact .sends (by simp [hlength])

end Dialogue

/-- What is sent and heard in saving a batch is a dialogue over the order of a plan. -/
theorem exists_dialogue (hx : x ∈ sent d patience entries s) :
    ∃ p log run, Plan.ofBatch d.schema entries = .ok p ∧
      start d patience entries s = SaveRun.after log run ∧
      Dialogue d ⟨p.order.length, p.elided.length⟩ p.order entries (sent d patience entries s)
        (awaited patience (d.transport.outcomes s (start d patience entries s).log.requests))
        run := by
  rw [requests_start]
  cases hplan : plan d entries with
  | mk log planned =>
    cases planned with
    | error f => simp [sent, hplan] at hx
    | ok p =>
      have hplanned := congrArg Prod.snd hplan
      rw [sent_eq hplanned]
      exact ⟨p, log, _, (plan_eq_ok hplanned).1, start_eq hplan, dialogue_sendAll ..⟩

/-- A response of success to an insert or update is written back to the entry as it was when it was
sent: all of it, or as much of it as stands before the first value that cannot be read. The run
fails with that value and with nothing else in the response. -/
theorem writtenBack_of_success (hx : (sent d patience entries s)[a]? = some x)
    (hwrite : x.flight.write ≠ .delete)
    (hr : (awaited patience
      (d.transport.outcomes s (start d patience entries s).log.requests))[a]? = some (.ok r))
    (hsuccess : r.isSuccess = true) :
    ∃ fault, WrittenBack x.flight.model r x.entry
        ((start d patience entries s).entries.get x.position) fault ∧
      Concludes d (sent d patience entries s) a (start d patience entries s) fault := by
  obtain ⟨p, log, run, hbatch, hstart, hdialogue⟩ := exists_dialogue (List.mem_of_getElem? hx)
  refine ⟨(assignedValues x.flight.model x.flight.write r).2, ?_, ?_⟩
  · have hentries : (start d patience entries s).entries = run.entries := by
      rw [hstart, SaveRun.after]
    rw [hentries, hdialogue.get_eq_acceptAll (nodup_order hbatch) hx hr hsuccess]
    exact writtenBack_assignedValues hwrite ..
  · rw [hstart]
    exact (hdialogue.concludes (nodup_order hbatch) hx hr hsuccess).after log

end run

/-- Tickets, the key and the number of which the store assigns. -/
def ticket : Entity :=
  ⟨"Ticket", "tickets",
    [⟨"Id", "id", .text, true, false⟩, ⟨"Number", "number", .int32, true, false⟩,
      ⟨"Title", "title", .text, false, false⟩], ["Id"], []⟩

def desk : Session (List Response) := scriptedSession (.ofList [ticket])

def ticketBatch : Vector Entry 1 :=
  #v[(((Entry.start "Ticket" .added).assignTemporary "Id" (.text "new")).assignTemporary "Number"
    (.int 0)).assign "Title" (.text "a")]

/-- A response with a number that is no number, behind a key that is a key. -/
def misnumbered : Response := ⟨201, "[\x7b\"id\":\"t1\",\"number\":\"seven\"\x7d]".toUTF8⟩

def misread : Fault := .badField .mutation "Ticket" "Number" (.unexpected .int32 (.string "seven"))

/-- The run of that batch with that response. -/
def deskRun : SaveRun (List Response) 1 := start desk none ticketBatch [misnumbered]

theorem plan_ticketBatch : plan desk ticketBatch = ([], .ok ⟨[0], []⟩) := by cbv

theorem assignedValues_misnumbered :
    assignedValues ticket .insert misnumbered = ([("Id", .text "t1")], some misread) := by
  have hrows : Row.objectsOf misnumbered.body =
      .ok [[("id", .string "t1"), ("number", .string "seven")]] := by
    rw [Row.objectsOf, misnumbered, Json.ofBytes?_toUTF8]
    cbv
  rw [assignedValues, firstRow_eq (by cbv), hrows]
  cbv

/-- The ticket is sent as it is in the batch; the run fails with the number, and the key is taken
over. -/
theorem deskRun_eq : ∃ x, sent desk none ticketBatch [misnumbered] = [x] ∧
    x.position = 0 ∧ x.entry = ticketBatch.get 0 ∧ x.flight.write = .insert ∧
    deskRun.ending = .failed misread ∧
    deskRun.entries.get 0 = (ticketBatch.get 0).accept "Id" (.text "t1") := by
  have hlaunch : (launch desk (ticketBatch.get 0)).map (fun f => (f.model, f.write)) =
      .ok (ticket, .insert) := by cbv
  obtain ⟨flight, hflight, hcalls⟩ := Except.map_eq_ok.1 hlaunch
  obtain ⟨hmodel, hwrite⟩ := Prod.mk.inj hcalls
  have houtcome : readOutcome Write.insert.operation ticket.table
      (desk.transport.send [misnumbered] flight.request).1 = .ok misnumbered := rfl
  have hadvance : advance desk 0 [] ticketBatch [misnumbered] = none := by
    simp only [advance, hflight, hmodel, hwrite, houtcome, assignedValues_misnumbered]
  have hrun : deskRun = SaveRun.after [] (sendAll desk ⟨1, 0⟩ [0] none ticketBatch [misnumbered]) :=
    start_eq plan_ticketBatch
  refine ⟨⟨0, ticketBatch.get 0, flight⟩, ?_, rfl, rfl, hwrite, ?_, ?_⟩
  · rw [sent_eq (congrArg Prod.snd plan_ticketBatch)]
    exact sendings_last hflight (.inr hadvance)
  · simp only [hrun, SaveRun.after, sendAll, hflight, hmodel, hwrite, houtcome,
      assignedValues_misnumbered]
    rfl
  · simp only [hrun, SaveRun.after, sendAll, hflight, hmodel, hwrite, houtcome,
      assignedValues_misnumbered]
    rfl

theorem writtenBack_ticket : ∃ x, (sent desk none ticketBatch [misnumbered])[0]? = some x ∧
    x.flight.write ≠ .delete ∧
    (awaited none (desk.transport.outcomes [misnumbered] deskRun.log.requests))[0]? =
      some (.ok misnumbered) ∧ misnumbered.isSuccess = true ∧
    ∃ fault, WrittenBack x.flight.model misnumbered x.entry (deskRun.entries.get x.position) fault ∧
      Concludes desk (sent desk none ticketBatch [misnumbered]) 0 deskRun fault := by
  obtain ⟨x, hsent, -, -, hwrite, -⟩ := deskRun_eq
  have hx : (sent desk none ticketBatch [misnumbered])[0]? = some x := by
    rw [hsent]
    rfl
  have hdelete : x.flight.write ≠ .delete := by simp [hwrite]
  have hr : (awaited none (desk.transport.outcomes [misnumbered] deskRun.log.requests))[0]? =
      some (.ok misnumbered) := by
    rw [deskRun, requests_start, hsent]
    rfl
  exact ⟨x, hx, hdelete, hr, rfl, writtenBack_of_success hx hdelete hr rfl⟩

/-- Behind a response that fails its run the key of the ticket is the one that the store has
assigned, where it was a stand-in when the ticket was sent; the number still is one. -/
theorem halfWrittenBack_ticket : ∃ x, (sent desk none ticketBatch [misnumbered])[0]? = some x ∧
    x.position = 0 ∧ x.flight.write = .insert ∧ misnumbered.isSuccess = true ∧
    deskRun.ending = .failed misread ∧
    x.entry.slot "Id" = ⟨.text "new", .null, false, true⟩ ∧
    (deskRun.entries.get x.position).slot "Id" = ⟨.text "t1", .text "t1", false, false⟩ ∧
    (deskRun.entries.get x.position).slot "Number" = ⟨.int 0, .null, false, true⟩ := by
  obtain ⟨x, hsent, hposition, hentry, hwrite, hending, hget⟩ := deskRun_eq
  refine ⟨x, ?_, hposition, hwrite, rfl, hending, ?_, ?_, ?_⟩
  · rw [hsent]
    rfl
  · rw [hentry]
    cbv
  · rw [hposition, hget]
    cbv
  · rw [hposition, hget]
    cbv

end Save

end RemoteTable
