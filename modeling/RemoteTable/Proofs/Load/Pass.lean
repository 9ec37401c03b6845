import Mathlib
import RemoteTable.Proofs.Json.Reading
import RemoteTable.Proofs.Load.Results

/-!
One pass over the rows of a query. However often a cursor is asked for the next row, and whichever
of the calls are dropped while they wait, it sends no request once there is a response, yields the
rows of the response in their order up to the first that is an error, and nothing after them.
-/

namespace RemoteTable.Cursor

/-- A call for the next row: one that waits for a response, and one that is dropped if it has to. -/
inductive Call where
  | next
  | poll
  deriving DecidableEq

/-- What a call comes to: its answer, unless it was dropped, what was seen of it, and how far the
cursor is after it. -/
structure Turn where
  answer : Option (Option (Except Fault Shape))
  log : Log
  phase : Phase

variable {σ : Type}

/-- A call, and the state of the transport after it. A request that nobody waits for is lost: what
the transport makes of it is `lose`. -/
def turn (t : Transport σ) (lose : σ → Request → σ) (c : Cursor) (s : σ) (call : Call) :
    Turn × Cursor × σ :=
  match call with
  | .next =>
    let (item, c, log, s) := c.next t s
    (⟨some item, log, c.phase⟩, c, s)
  | .poll =>
    let (item, c, log) := c.poll
    (⟨item, log, c.phase⟩, c, log.requests.foldl lose s)

def turns (t : Transport σ) (lose : σ → Request → σ) : Cursor → σ → List Call → List Turn
  | _, _, [] => []
  | c, s, call :: calls =>
    let (x, c, s) := c.turn t lose s call
    x :: turns t lose c s calls

namespace Turn

/-- The number of requests that a call has sent. -/
def sent (x : Turn) : Nat := x.log.requests.length

/-- What a call has sent, if anything, is the request of the query. -/
def Asks (request : Except Fault Request) (x : Turn) : Prop :=
  x.log.requests = [] ∨ ∃ r, request = .ok r ∧ x.log.requests = [r]

/-- There is nothing more after a call: there was no row for it, or an error. -/
def Ends (x : Turn) : Prop := x.answer = some none ∨ ∃ f, x.answer = some (some (.error f))

end Turn

/-- The requests of the calls that were dropped. -/
def lost (l : List Turn) : List Request :=
  (l.filter fun x => x.answer.isNone).flatMap fun x => x.log.requests

/-- What calls come to that are made one after another of a cursor with a given request and given
results. -/
structure OnePass (request : Except Fault Request) (results : List (Except Fault Shape))
    (calls : List Call) (l : List Turn) : Prop where
  /-- Only calls that do not wait are dropped. -/
  waited : calls.Forall₂ (fun call x => call = .next → x.answer ≠ none) l
  asks : ∀ x ∈ l, x.Asks request
  few : (l.map Turn.sent).sum ≤ 1 + l.countP fun x => x.answer.isNone
  /-- Once a call has an answer, all calls have, and none of them sends a request. -/
  once : l.Pairwise fun x y => x.answer ≠ none → y.answer ≠ none ∧ y.log.requests = []
  /-- The results are the answers, in their order; then there are no more. -/
  answers : ∀ (a : Nat) item, (l.filterMap Turn.answer)[a]? = some item → item = results[a]?
  exhausted : ∀ x ∈ l, x.Ends → x.phase = .exhausted
  afterwards : l.Pairwise fun x y =>
    x.Ends → y.answer = some none ∧ y.log = [] ∧ y.phase = .exhausted

/-- What calls come to when the response is there: the results in their order, and no requests. -/
structure Served (results : List (Except Fault Shape)) (l : List Turn) : Prop where
  answered : ∀ x ∈ l, x.answer ≠ none
  answers : ∀ (a : Nat) item, (l.filterMap Turn.answer)[a]? = some item → item = results[a]?
  silent : ∀ x ∈ l, x.log = []
  exhausted : ∀ x ∈ l, x.Ends → x.phase = .exhausted
  afterwards : l.Pairwise fun x y => x.Ends → y.answer = some none ∧ y.phase = .exhausted

section

variable {request : Except Fault Request} {results : List (Except Fault Shape)} {calls : List Call}
  {l : List Turn} {x : Turn}

/-- The first answer is the first result, and the answers after it are the other results. -/
theorem answers_cons (hanswer : x.answer = some results.head?)
    (h : ∀ (a : Nat) item, (l.filterMap Turn.answer)[a]? = some item → item = results.tail[a]?)
    (a : Nat) (item : Option (Except Fault Shape))
    (hitem : ((x :: l).filterMap Turn.answer)[a]? = some item) : item = results[a]? := by
  rw [List.filterMap_cons_some hanswer] at hitem
  cases a with
  | zero => cases hitem; exact List.head?_eq_getElem?
  | succ a => rw [h a item hitem, List.getElem?_tail]

namespace Served

theorem nil (results : List (Except Fault Shape)) : Served results [] :=
  ⟨by simp, by simp, by simp, by simp, .nil⟩

/-- Without results there is nothing more. -/
theorem of_nil (h : Served [] l) (hx : x ∈ l) : x.answer = some none ∧ x.phase = .exhausted := by
  obtain ⟨item, hitem⟩ := Option.ne_none_iff_exists'.1 (h.answered x hx)
  obtain ⟨a, ha⟩ := List.mem_iff_getElem?.1 (List.mem_filterMap.2 ⟨x, hx, hitem⟩)
  have hanswer : x.answer = some none := hitem.trans (congrArg some (h.answers a item ha))
  exact ⟨hanswer, h.exhausted x hx (.inl hanswer)⟩

/-- A call is answered by the first result, and the calls after it by the others. -/
theorem cons (h : Served results.tail l) (hanswer : x.answer = some results.head?)
    (hlog : x.log = []) (hends : x.Ends → x.phase = .exhausted ∧ results.tail = []) :
    Served results (x :: l) where
  answered := List.forall_mem_cons.2 ⟨by simp [hanswer], h.answered⟩
  answers := answers_cons hanswer h.answers
  silent := List.forall_mem_cons.2 ⟨hlog, h.silent⟩
  exhausted := List.forall_mem_cons.2 ⟨fun hx => (hends hx).1, h.exhausted⟩
  afterwards := List.pairwise_cons.2 ⟨fun y hy hx => ((hends hx).2 ▸ h).of_nil hy, h.afterwards⟩

theorem requests_eq_nil (h : Served results l) (hx : x ∈ l) : x.log.requests = [] := by
  rw [h.silent x hx]
  rfl

theorem sum_sent (h : Served results l) : (l.map Turn.sent).sum = 0 :=
  List.sum_eq_zero_iff.2 (List.forall_mem_map.2 fun _ hx =>
    congrArg List.length (h.requests_eq_nil hx))

end Served

/-- What is to be shown of the first answer, and of what comes after it. -/
structure Answered (request : Except Fault Request) (results : List (Except Fault Shape)) (x : Turn)
    (l : List Turn) : Prop where
  answer : x.answer = some results.head?
  asks : x.Asks request
  ends : x.Ends → x.phase = .exhausted ∧ results.tail = []
  served : Served results.tail l

theorem Turn.Asks.sent_le (h : x.Asks request) : x.sent ≤ 1 := by
  rcases h with h | ⟨r, -, h⟩ <;> simp [Turn.sent, h]

theorem Answered.lost (h : Answered request results x l) : lost (x :: l) = [] := by
  have hfilter : (x :: l).filter (fun x => x.answer.isNone) = [] := by
    refine List.filter_eq_nil_iff.2 (List.forall_mem_cons.2 ⟨by simp [h.answer], fun y hy => ?_⟩)
    exact fun hnone => h.served.answered y hy (Option.isNone_iff_eq_none.1 hnone)
  rw [Cursor.lost, hfilter]
  rfl

namespace OnePass

theorem nil (request : Except Fault Request) (results : List (Except Fault Shape)) :
    OnePass request results [] [] :=
  ⟨.nil, by simp, by simp, .nil, by simp, by simp, .nil⟩

/-- From the first answer on, the results are served. -/
theorem of_answered (h : Answered request results x l)
    (hwaited : calls.Forall₂ (fun call x => call = .next → x.answer ≠ none) (x :: l)) :
    OnePass request results calls (x :: l) where
  waited := hwaited
  asks := List.forall_mem_cons.2 ⟨h.asks, fun _ hy => .inl (h.served.requests_eq_nil hy)⟩
  few := by
    have hsent := h.asks.sent_le
    rw [List.map_cons, List.sum_cons, h.served.sum_sent]
    omega
  once := List.pairwise_cons.2
    ⟨fun y hy _ => ⟨h.served.answered y hy, h.served.requests_eq_nil hy⟩,
      List.pairwise_of_forall_mem_list fun _ _ y hy _ =>
        ⟨h.served.answered y hy, h.served.requests_eq_nil hy⟩⟩
  answers := answers_cons h.answer h.served.answers
  exhausted := List.forall_mem_cons.2 ⟨fun hx => (h.ends hx).1, h.served.exhausted⟩
  afterwards := List.pairwise_cons.2
    ⟨fun y hy hx =>
        have hy' := ((h.ends hx).2 ▸ h.served).of_nil hy
        ⟨hy'.1, h.served.silent y hy, hy'.2⟩,
      h.served.afterwards.imp_of_mem fun _ hy hxy hx =>
        ⟨(hxy hx).1, h.served.silent _ hy, (hxy hx).2⟩⟩

/-- A dropped call may cost a request; it takes no result. -/
theorem dropped (h : OnePass request results calls l) (hanswer : x.answer = none)
    (hasks : x.Asks request) : OnePass request results (.poll :: calls) (x :: l) where
  waited := .cons (by simp) h.waited
  asks := List.forall_mem_cons.2 ⟨hasks, h.asks⟩
  few := by
    have hsent := hasks.sent_le
    have hfew := h.few
    rw [List.map_cons, List.sum_cons, List.countP_cons_of_pos (by simp [hanswer])]
    omega
  once := List.pairwise_cons.2 ⟨fun _ _ hx => absurd hanswer hx, h.once⟩
  answers := by rw [List.filterMap_cons_none hanswer]; exact h.answers
  exhausted := List.forall_mem_cons.2 ⟨by simp [Turn.Ends, hanswer], h.exhausted⟩
  afterwards := List.pairwise_cons.2 ⟨by simp [Turn.Ends, hanswer], h.afterwards⟩

end OnePass

end

variable {t : Transport σ} {lose : σ → Request → σ} {c : Cursor} {s : σ} {call : Call}
  {calls : List Call}

theorem turn_exhausted (h : c.state = .exhausted) :
    c.turn t lose s call = (⟨some none, [], .exhausted⟩, c, s) := by
  cases call <;> simp [turn, next, poll, phase, Log.requests, h]

theorem turns_exhausted (h : c.state = .exhausted) (calls : List Call) :
    turns t lose c s calls = calls.map fun _ => ⟨some none, [], .exhausted⟩ := by
  induction calls with
  | nil => rfl
  | cons call calls ih =>
    rw [turns, turn_exhausted h, List.map_cons, ← ih]

theorem served_exhausted (h : c.state = .exhausted) (calls : List Call) :
    Served [] (turns t lose c s calls) := by
  induction calls with
  | nil => exact .nil _
  | cons call calls ih =>
    rw [turns, turn_exhausted h]
    exact .cons ih rfl rfl fun _ => ⟨rfl, rfl⟩

theorem turn_ready {rows : List JsonMembers} (h : c.state = .ready rows) :
    c.turn t lose s call =
      (⟨some (c.nextRow rows).1, [], ({ c with state := (c.nextRow rows).2 } : Cursor).phase⟩,
        { c with state := (c.nextRow rows).2 }, s) := by
  cases call <;> simp [turn, next, poll, Log.requests, h]

/-- What the next row is, of all that there is to come. -/
theorem nextRow_eq (c : Cursor) (rows : List JsonMembers) :
    (c.nextRow rows).1 = (throughError (rows.map c.shape)).head? ∧
      ((∃ shape rest, (c.nextRow rows).1 = some (.ok shape) ∧ (c.nextRow rows).2 = .ready rest ∧
          (throughError (rows.map c.shape)).tail = throughError (rest.map c.shape)) ∨
        (c.nextRow rows).2 = .exhausted ∧ (throughError (rows.map c.shape)).tail = []) := by
  cases rows with
  | nil => exact ⟨rfl, .inr ⟨rfl, rfl⟩⟩
  | cons o rest =>
    cases hshape : c.shape o with
    | ok shape =>
      simp only [nextRow, List.map_cons, hshape, throughError, List.head?_cons, List.tail_cons]
      exact ⟨trivial, .inl ⟨shape, rest, rfl, rfl, rfl⟩⟩
    | error f =>
      simp only [nextRow, List.map_cons, hshape, throughError, List.head?_cons, List.tail_cons]
      exact ⟨trivial, .inr ⟨trivial, trivial⟩⟩

/-- After an error and after the last row there is nothing to come. -/
theorem ends_nextRow (c : Cursor) (rows : List JsonMembers) (log : Log) :
    Turn.Ends
        ⟨some (c.nextRow rows).1, log, ({ c with state := (c.nextRow rows).2 } : Cursor).phase⟩ →
      ({ c with state := (c.nextRow rows).2 } : Cursor).phase = .exhausted ∧
        (throughError (rows.map c.shape)).tail = [] := by
  obtain ⟨-, ⟨shape, rest, hok, -, -⟩ | ⟨hstate, htail⟩⟩ := nextRow_eq c rows
  · rintro (hends | ⟨f, hends⟩)
    · simp [hok] at hends
    · simp [hok] at hends
  · exact fun _ => ⟨by simp only [phase, hstate], htail⟩

/-- What comes after a row is served without a request. -/
theorem served_nextRow (c : Cursor) (rows : List JsonMembers) (s : σ) (calls : List Call) :
    Served (throughError (rows.map c.shape)).tail
      (turns t lose { c with state := (c.nextRow rows).2 } s calls) := by
  induction calls generalizing c rows s with
  | nil => exact .nil _
  | cons call calls ih =>
    obtain ⟨-, ⟨shape, rest, -, hstate, htail⟩ | ⟨hstate, htail⟩⟩ := nextRow_eq c rows
    · rw [htail, turns, turn_ready (c := { c with state := (c.nextRow rows).2 }) hstate]
      exact .cons (ih c rest s) (congrArg some (nextRow_eq c rest).1) rfl (ends_nextRow c rest [])
    · rw [htail]
      exact served_exhausted hstate _

/-- The request is not sent yet, or nobody has waited for the response. -/
def Unfetched (c : Cursor) : Prop := c.state = .notStarted ∨ c.state = .fetching

theorem requests_opening (c : Cursor) (r : Request) (log : Log) :
    Log.requests (c.opening r ++ log) = r :: Log.requests log := rfl

theorem requests_receive (c : Cursor) (o : Outcome) : (c.receive o).1.requests = [] := by
  unfold receive
  split
  · rfl
  · split <;> rfl

/-- A response is fetched by one request; the results are those of its rows, or its error. -/
theorem fetch_cases (t : Transport σ) (c : Cursor) (s : σ) : ∃ log s',
    (log.requests = [] ∨ ∃ r, c.request = .ok r ∧ log.requests = [r]) ∧
      ((∃ f, c.fetch t s = (.error f, log, s') ∧ results t c s = [.error f]) ∨
        ∃ rows, c.fetch t s = (.ok rows, log, s') ∧
          results t c s = throughError (rows.map c.shape)) := by
  cases hrequest : c.request with
  | error f =>
    refine ⟨[], s, .inl rfl, .inl ⟨f, ?_, ?_⟩⟩
    · simp only [fetch, hrequest]
    · simp only [results, hrequest]
  | ok r =>
    have hlog := requests_opening c r (c.receive (t.send s r).1).1
    rw [requests_receive] at hlog
    refine ⟨_, (t.send s r).2, .inr ⟨r, rfl, hlog⟩, ?_⟩
    cases hread : readOutcome .load c.table (t.send s r).1 with
    | error x =>
      exact .inl ⟨x.2, by simp only [fetch, hrequest, receive, hread],
        by simp only [results, hrequest, hread]⟩
    | ok response =>
      cases hbody : Row.objectsOf response.body with
      | error e =>
        exact .inl ⟨_, by simp only [fetch, hrequest, receive, hread, hbody]; rfl,
          by simp only [results, hrequest, hread, hbody]⟩
      | ok rows =>
        exact .inr ⟨rows, by simp only [fetch, hrequest, receive, hread, hbody],
          by simp only [results, hrequest, hread, hbody]⟩

theorem answered_of_error {request : Except Fault Request} {f : Fault} {log : Log}
    (h : Turn.Asks request ⟨some (some (.error f)), log, .exhausted⟩) (calls : List Call) :
    Answered request [.error f] ⟨some (some (.error f)), log, .exhausted⟩
      (turns t lose { c with state := .exhausted } s calls) :=
  ⟨rfl, h, fun _ => ⟨rfl, rfl⟩, served_exhausted rfl calls⟩

/-- A call that waits fetches the response, and is answered by the first result. -/
theorem answered_next (t : Transport σ) (lose : σ → Request → σ) (s : σ) (h : c.Unfetched)
    (calls : List Call) :
    Answered c.request (results t c s) (c.turn t lose s .next).1
      (turns t lose (c.turn t lose s .next).2.1 (c.turn t lose s .next).2.2 calls) := by
  obtain ⟨log, s', hlog, ⟨f, hfetch, hresults⟩ | ⟨rows, hfetch, hresults⟩⟩ := fetch_cases t c s
  · have hturn : c.turn t lose s .next =
        (⟨some (some (.error f)), log, .exhausted⟩, { c with state := .exhausted }, s') := by
      rcases h with h | h <;> simp [turn, next, h, hfetch, phase]
    rw [hturn, hresults]
    exact answered_of_error hlog calls
  · have hturn : c.turn t lose s .next =
        (⟨some (c.nextRow rows).1, log, ({ c with state := (c.nextRow rows).2 } : Cursor).phase⟩,
          { c with state := (c.nextRow rows).2 }, s') := by
      rcases h with h | h <;> simp [turn, next, h, hfetch]
    rw [hturn, hresults]
    exact ⟨congrArg some (nextRow_eq c rows).1, hlog, ends_nextRow c rows log,
      served_nextRow c rows s' calls⟩

/-- Without a request, a call of either kind is answered at once. -/
theorem turn_refused {f : Fault} (h : c.Unfetched) (hrequest : c.request = .error f) :
    c.turn t lose s call =
      (⟨some (some (.error f)), [], .exhausted⟩, { c with state := .exhausted }, s) := by
  rcases h with h | h <;> cases call <;>
    simp [turn, next, poll, fetch, h, hrequest, phase, Log.requests]

/-- Without a request, a call that does not wait is answered as well. -/
theorem answered_poll {f : Fault} (t : Transport σ) (lose : σ → Request → σ) (s : σ)
    (h : c.Unfetched) (hrequest : c.request = .error f) (calls : List Call) :
    Answered c.request (results t c s) (c.turn t lose s .poll).1
      (turns t lose (c.turn t lose s .poll).2.1 (c.turn t lose s .poll).2.2 calls) := by
  have hresults : results t c s = [.error f] := by simp only [results, hrequest]
  rw [turn_refused h hrequest, hresults]
  exact answered_of_error (.inl rfl) calls

/-- A call that does not wait is dropped, with its request. -/
theorem turn_poll {r : Request} (h : c.Unfetched) (hrequest : c.request = .ok r) :
    c.turn t lose s .poll =
      (⟨none, c.opening r ++ c.closing 0, .fetching⟩, { c with state := .fetching }, lose s r) := by
  rcases h with h | h <;>
    simp [turn, poll, h, hrequest, phase, Log.requests, opening, closing]

theorem lost_cons {x : Turn} (h : x.answer = none) (l : List Turn) :
    lost (x :: l) = x.log.requests ++ lost l := by
  simp [lost, h]

theorem waited (t : Transport σ) (lose : σ → Request → σ) (c : Cursor) (s : σ) (calls : List Call) :
    calls.Forall₂ (fun call x => call = .next → x.answer ≠ none) (turns t lose c s calls) := by
  induction calls generalizing c s with
  | nil => exact .nil
  | cons call calls ih =>
    refine .cons (fun hcall => ?_) (ih ..)
    simp [hcall]

/-- Until there is an answer, a dropped call leaves a cursor that is asked as the first time. -/
theorem onePass_of_unfetched (t : Transport σ) (lose : σ → Request → σ) (s : σ) (calls : List Call)
    (h : c.Unfetched) :
    OnePass c.request (results t c ((lost (turns t lose c s calls)).foldl lose s)) calls
      (turns t lose c s calls) := by
  induction calls generalizing c s with
  | nil => exact .nil _ _
  | cons call calls ih =>
    have hwaited := waited t lose c s (call :: calls)
    cases call with
    | next =>
      have hanswered := answered_next t lose s h calls
      rw [turns, hanswered.lost]
      exact .of_answered hanswered hwaited
    | poll =>
      cases hrequest : c.request with
      | error f =>
        have hanswered := answered_poll t lose s h hrequest calls
        rw [turns, hanswered.lost, ← hrequest]
        exact .of_answered hanswered hwaited
      | ok r =>
        rw [turns, turn_poll h hrequest, lost_cons rfl]
        exact .dropped (hrequest ▸ ih (c := { c with state := .fetching }) _ (.inr rfl)) rfl
          (.inr ⟨r, rfl, rfl⟩)

theorem count_dropped {calls : List Call} {l : List Turn}
    (h : calls.Forall₂ (fun call x => call = .next → x.answer ≠ none) l)
    (hcalls : ∀ call ∈ calls, call = .next) : l.countP (fun x => x.answer.isNone) = 0 := by
  induction h with
  | nil => rfl
  | cons hcall _ ih =>
    obtain ⟨hnext, hcalls⟩ := List.forall_mem_cons.1 hcalls
    rw [List.countP_cons_of_neg (by simpa using hcall hnext), ih hcalls]

/-- An enumeration is one pass. The calls of a cursor send at most one request more than there are
dropped calls, and none after the first answer; they are answered by the results of the first
response that is waited for, and after an error or the last row by nothing, without a request. -/
theorem one_pass (t : Transport σ) (lose : σ → Request → σ) (q : PreparedQuery) (e : Endpoint)
    (bag : Bag) (s : σ) (calls : List Call) :
    let l := turns t lose (start q e bag) s calls
    (∃ results, Results t q e bag ((lost l).foldl lose s) results ∧
      OnePass (q.request e bag) results calls l) ∧
      ((∀ call ∈ calls, call = .next) → (l.map Turn.sent).sum ≤ 1) := by
  intro l
  have hpass := onePass_of_unfetched t lose s calls (c := start q e bag) (.inl rfl)
  refine ⟨⟨_, results_of_cursor t (start q e bag) ((lost l).foldl lose s), hpass⟩, fun hcalls => ?_⟩
  have hfew := hpass.few
  rwa [count_dropped hpass.waited hcalls] at hfew

/-- Books by their titles. -/
def titles : PreparedQuery :=
  ⟨⟨"Book", "books", [⟨"Title", "title", .text, false, false⟩], [], []⟩,
    { Query.ofTable "books" with select := ["title"] }, ⟨["title"], ["Title"], .column "Title"⟩⟩

def localhost : Endpoint :=
  .ofUrl ⟨"http", "", "", some (.name "localhost"), none, .segments [""], none, none⟩

def books : String := "[\x7b\"title\":\"Emma\"\x7d,\x7b\"title\":\"Ulysses\"\x7d]"

/-- Answers every request with two books. -/
def twoBooks : Transport Unit := ⟨fun _ _ => (.ok ⟨200, books.toUTF8⟩, ())⟩

theorem exists_request_titles : ∃ r, titles.request localhost .empty = .ok r := by
  have hok : (titles.request localhost .empty).isOk = true := by cbv
  cases h : titles.request localhost .empty with
  | ok r => exact ⟨r, rfl⟩
  | error f => simp [h, Except.isOk, Except.toBool] at hok

theorem ofBytes?_books : Json.ofBytes? books.toUTF8 = some (.array
    [.object [("title", .string "Emma")], .object [("title", .string "Ulysses")]]) := by
  rw [books, Json.ofBytes?_toUTF8]
  cbv

theorem objectsOf_books : Row.objectsOf books.toUTF8 =
    .ok [[("title", .string "Emma")], [("title", .string "Ulysses")]] :=
  Row.Splits.objectsOf_eq (.rows ofBytes?_books)

theorem fetch_twoBooks {r : Request} (hr : titles.request localhost .empty = .ok r)
    (state : Progress) :
    let c : Cursor := ⟨titles, localhost, .empty, state⟩
    c.fetch twoBooks () = (.ok [[("title", .string "Emma")], [("title", .string "Ulysses")]],
      c.opening r ++ c.closing 2, ()) := by
  have hread (table : String) : readOutcome .load table (twoBooks.send () r).1 =
      .ok ⟨200, books.toUTF8⟩ := rfl
  simp only [fetch, request, hr, receive, hread, objectsOf_books, List.length_cons, List.length_nil,
    Nat.zero_add, Nat.reduceAdd]

theorem shape_title (state : Progress) (title : String) :
    (Cursor.mk titles localhost .empty state).shape [("title", .string title)] =
      .ok (.value (.text title)) := by
  cbv

/-- A call that is dropped, and four that wait for the books. -/
def visits : List Call := [.poll, .next, .next, .next, .next]

/-- What those calls come to. -/
def visited : List Turn :=
  turns twoBooks (fun s _ => s) (start titles localhost .empty) () visits

/-- The dropped call costs a request. The next one sends another and yields the first of two books,
the one after it the second; then there are no more. -/
theorem visited_eq : visited.map Turn.sent = [1, 1, 0, 0, 0] ∧
    visited.map Turn.answer = [none, some (some (.ok (.value (.text "Emma")))),
      some (some (.ok (.value (.text "Ulysses")))), some none, some none] := by
  obtain ⟨r, hr⟩ := exists_request_titles
  have hpoll : turn twoBooks (fun s _ => s) (start titles localhost .empty) () .poll = _ :=
    turn_poll (.inl rfl) hr
  simp only [visited, visits, turns, hpoll]
  simp only [start, turn, next, fetch_twoBooks hr, nextRow, shape_title, List.map_cons, List.map_nil]
  exact ⟨rfl, trivial⟩

/-- The two books are all that there is to yield. -/
theorem one_pass_visited :
    let books : List (Except Fault Shape) :=
      [.ok (.value (.text "Emma")), .ok (.value (.text "Ulysses"))]
    visited.map Turn.answer = [none, some books[0]?, some books[1]?, some none, some none] ∧
      visited.map Turn.sent = [1, 1, 0, 0, 0] ∧
      Results twoBooks titles localhost .empty () books ∧
      OnePass (titles.request localhost .empty) books visits visited := by
  obtain ⟨hsent, hanswer⟩ := visited_eq
  obtain ⟨⟨results, hresults, hpass⟩, -⟩ :=
    one_pass twoBooks (fun s _ => s) titles localhost .empty () visits
  rw [Subsingleton.elim (List.foldl _ () _) ()] at hresults
  have hitem (a : Nat) (item : Option (Except Fault Shape))
      (h : (visited.filterMap Turn.answer)[a]? = some item) : item = results[a]? :=
    hpass.answers a item h
  have hfilter : visited.filterMap Turn.answer = (visited.map Turn.answer).filterMap id := by
    rw [List.filterMap_map]
    rfl
  rw [hfilter, hanswer] at hitem
  -- The answers up to the first without a row say what the results are.
  have hfirst := hitem 0 _ rfl
  have hsecond := hitem 1 _ rfl
  have hthird := hitem 2 _ rfl
  have hbooks : results = [.ok (.value (.text "Emma")), .ok (.value (.text "Ulysses"))] := by
    match results with
    | [] => cases hfirst
    | [_] => cases hsecond
    | [_, _] => rw [← Option.some.inj hfirst, ← Option.some.inj hsecond]
    | _ :: _ :: _ :: _ => cases hthird
  subst hbooks
  exact ⟨hanswer, hsent, hresults, hpass⟩

end RemoteTable.Cursor
