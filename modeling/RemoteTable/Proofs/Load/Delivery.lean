import Mathlib
import RemoteTable.Load.Rows
import RemoteTable.Proofs.Query.Shaping

/-!
Blocking and async delivery of the rows of a query. Both send the same request and, if all goes
well, give the same rows; of two faulty rows they may tell of different ones.
-/

namespace RemoteTable

namespace Load

variable {σ α : Type}

/-- The first row that cannot be shaped. -/
def unshaped? (c : Cursor) (rows : List JsonMembers) : Option Nat :=
  rows.findIdx? fun o => !(c.shape o).isOk

/-- The first row that cannot be shaped and read into the target. -/
def unread? (target : Target α) (c : Cursor) (rows : List JsonMembers) : Option Nat :=
  rows.findIdx? fun o => !(c.shape o >>= readShaped target).isOk

/-- The row that a delivery tells of if it fails. -/
def culprit? (target : Target α) (c : Cursor) (rows : List JsonMembers) : Delivery → Option Nat
  | .blocking => unread? target c rows
  | .async => (unshaped? c rows).or (unread? target c rows)

/-- A row that cannot be read stands before the first row that cannot be shaped. -/
def Overtaken (target : Target α) (c : Cursor) (rows : List JsonMembers) : Prop :=
  ∃ i j, i < j ∧ unread? target c rows = some i ∧ unshaped? c rows = some j

/-- The result for some rows is the fault of one of them, or everything that they are read as. -/
def ResultOf (target : Target α) (c : Cursor) (rows : List JsonMembers) (culprit : Option Nat)
    (result : Except Fault (Rows α)) : Prop :=
  match culprit with
  | some i => ∃ o f, rows[i]? = some o ∧ (c.shape o >>= readShaped target) = .error f ∧
      result = .error f
  | none => ∃ items, List.Forall₂ (fun o x => (c.shape o >>= readShaped target) = .ok x) rows items ∧
      result = .ok ⟨c.table, items⟩

/-- What each delivery makes of the rows that were received. -/
def made (target : Target α) (c : Cursor) (rows : List JsonMembers) :
    Delivery → Except Fault (List α)
  | .blocking => rows.mapM fun o => c.shape o >>= readShaped target
  | .async => rows.mapM c.shape >>= fun shaped => shaped.mapM (readShaped target)

variable {target : Target α} {c : Cursor} {rows : List JsonMembers}

theorem resultOf_unread (target : Target α) (c : Cursor) (rows : List JsonMembers) :
    ResultOf target c rows (unread? target c rows)
      ((made target c rows .blocking).map (Rows.mk c.table)) := by
  cases h : unread? target c rows with
  | some i =>
    obtain ⟨o, f, hget, hf, hrows⟩ := Except.mapM_eq_error_of_findIdx? h
    exact ⟨o, f, hget, hf, congrArg _ hrows⟩
  | none =>
    obtain ⟨items, hitems, hrows⟩ := Except.exists_mapM_of_findIdx?_eq_none h
    exact ⟨items, hitems, congrArg _ hrows⟩

/-- Each delivery fails with the fault of its row. -/
theorem resultOf_culprit (target : Target α) (c : Cursor) (rows : List JsonMembers) (d : Delivery) :
    ResultOf target c rows (culprit? target c rows d)
      ((made target c rows d).map (Rows.mk c.table)) := by
  cases d with
  | blocking => exact resultOf_unread target c rows
  | async =>
    cases h : unshaped? c rows with
    | some j =>
      obtain ⟨o, f, hget, hf, hrows⟩ := Except.mapM_eq_error_of_findIdx? h
      rw [culprit?, h, made, hrows]
      refine ⟨o, f, hget, ?_, rfl⟩
      rw [hf]
      rfl
    | none =>
      obtain ⟨shaped, hshaped, hrows⟩ := Except.exists_mapM_of_findIdx?_eq_none h
      have hmade : made target c rows .async = made target c rows .blocking := by
        simp only [made, hrows]
        exact Except.mapM_of_forall₂ hshaped
      rw [culprit?, h, hmade]
      exact resultOf_unread target c rows

/-- The row that is told of determines the result. -/
theorem ResultOf.unique {culprit : Option Nat} {r r' : Except Fault (Rows α)}
    (h : ResultOf target c rows culprit r) (h' : ResultOf target c rows culprit r') : r = r' := by
  cases culprit with
  | some i =>
    obtain ⟨o, f, hget, hf, rfl⟩ := h
    obtain ⟨o', f', hget', hf', rfl⟩ := h'
    obtain rfl := Option.some.inj (hget.symm.trans hget')
    rw [Except.error.inj (hf.symm.trans hf')]
  | none =>
    obtain ⟨items, hitems, rfl⟩ := h
    obtain ⟨items', hitems', rfl⟩ := h'
    have hrows := (Except.mapM_eq_ok.2 hitems).symm.trans (Except.mapM_eq_ok.2 hitems')
    rw [Except.ok.inj hrows]

/-- A row that cannot be shaped cannot be read either. -/
theorem unread?_le (target : Target α) {j : Nat} (h : unshaped? c rows = some j) :
    ∃ i, i ≤ j ∧ unread? target c rows = some i := by
  obtain ⟨o, f, hget, hf, -⟩ := Except.mapM_eq_error_of_findIdx? h
  have hfault : (c.shape o >>= readShaped target) = .error f := by
    rw [hf]
    rfl
  cases hi : unread? target c rows with
  | none =>
    have hok := List.findIdx?_eq_none_iff.1 hi o (List.mem_of_getElem? hget)
    rw [hfault] at hok
    cases hok
  | some i =>
    refine ⟨i, ?_, rfl⟩
    by_contra hlt
    obtain ⟨x, hx⟩ := Except.exists_ok_of_lt_findIdx? hi (by omega) hget
    rw [hfault] at hx
    cases hx

theorem culprit?_eq_iff : culprit? target c rows .async = culprit? target c rows .blocking ↔
    ¬ Overtaken target c rows := by
  cases hj : unshaped? c rows with
  | none => simp [culprit?, Overtaken, hj]
  | some j =>
    obtain ⟨i, hij, hi⟩ := unread?_le target hj
    simp only [culprit?, Overtaken, hj, hi, Option.some_or, Option.some.injEq]
    constructor
    · intro h hovertaken
      obtain ⟨i', j', hlt, rfl, rfl⟩ := hovertaken
      omega
    · intro h
      by_contra hne
      exact h ⟨i, j, by omega, rfl, rfl⟩

theorem readShaped_eq_error {shape : Shape} {f : Fault} (h : readShaped target shape = .error f) :
    f = .badShape target.name := by
  unfold readShaped at h
  split at h
  · cases h
  · exact (Except.error.inj h).symm

/-- A row that is overtaken is told of in blocking delivery only. -/
theorem made_ne_of_overtaken (h : Overtaken target c rows) :
    (made target c rows .async).map (Rows.mk c.table) ≠
      (made target c rows .blocking).map (Rows.mk c.table) := by
  intro heq
  obtain ⟨i, j, hij, hi, hj⟩ := h
  have hblocking := resultOf_unread target c rows
  rw [← heq, hi] at hblocking
  obtain ⟨o, f, hget, hf, hresult⟩ := hblocking
  obtain ⟨o', f', -, hf', hrows⟩ := Except.mapM_eq_error_of_findIdx? hj
  have hmade : made target c rows .async = .error f' := by
    rw [made, hrows]
    rfl
  rw [hmade] at hresult
  obtain rfl := Except.error.inj hresult
  obtain ⟨s, hs⟩ := Except.exists_ok_of_lt_findIdx? hj hij hget
  rw [hs] at hf
  -- what is wrong with a row that cannot be shaped has nothing to do with the target
  obtain rfl := readShaped_eq_error hf
  rcases Cursor.shape_eq_error hf' with ⟨property, error, h⟩ | ⟨name, h⟩ <;> cases h

theorem fetchAs_eq (d : Delivery) (target : Target α) (t : Transport σ) (e : Endpoint)
    (q : PreparedQuery) (bag : Bag) (s : σ) :
    fetchAs d target t e q bag s = drain t e q bag s fun c rows => made target c rows d := by
  cases d <;> rfl

/-- What the two deliveries of some rows come to. Each of them fails with the fault of its row, and
they come to the same unless a row is overtaken. -/
structure Agreement (target : Target α) (c : Cursor) (rows : List JsonMembers)
    (results : Delivery → Except Fault (Rows α)) : Prop where
  each : ∀ d, ResultOf target c rows (culprit? target c rows d) (results d)
  row : culprit? target c rows .async = culprit? target c rows .blocking ↔
    ¬ Overtaken target c rows
  result : results .async = results .blocking ↔ ¬ Overtaken target c rows

theorem agreement (target : Target α) (c : Cursor) (rows : List JsonMembers) :
    Agreement target c rows fun d => (made target c rows d).map (Rows.mk c.table) := by
  constructor
  · exact resultOf_culprit target c rows
  · exact culprit?_eq_iff
  · constructor
    · intro h hovertaken
      exact made_ne_of_overtaken hovertaken h
    · intro h
      have hasync := resultOf_culprit target c rows .async
      rw [culprit?_eq_iff.2 h] at hasync
      exact hasync.unique (resultOf_culprit target c rows .blocking)

/-- Blocking and async loads send the same requests and end in the same state. They fail alike if
there are no rows, and otherwise give the same rows or the fault of the same row, unless a row that
is shaped but cannot be read stands before one that cannot be shaped. -/
theorem fetchAs_agree (target : Target α) (t : Transport σ) (e : Endpoint) (q : PreparedQuery)
    (bag : Bag) (s : σ) :
    (fetchAs .async target t e q bag s).2 = (fetchAs .blocking target t e q bag s).2 ∧
      match ((Cursor.start q e bag).fetch t s).1 with
      | .error fault => ∀ d, (fetchAs d target t e q bag s).1 = .error fault
      | .ok rows => Agreement target (Cursor.start q e bag) rows
          fun d => (fetchAs d target t e q bag s).1 := by
  simp only [fetchAs_eq, drain]
  generalize hfetch : (Cursor.start q e bag).fetch t s = fetched
  obtain ⟨received, log, s'⟩ := fetched
  cases received with
  | error fault => exact ⟨rfl, fun _ => rfl⟩
  | ok rows => exact ⟨rfl, agreement target _ rows⟩

/-- People with their ages, which are asked for. -/
def ages : PreparedQuery :=
  ⟨⟨"Person", "people",
      [⟨"Id", "id", .int64, true, false⟩, ⟨"Age", "age", .int32, false, true⟩], ["Id"], []⟩,
    { Query.ofTable "people" with select := ["age"] }, ⟨["age"], ["Age"], .column "Age"⟩⟩

/-- Whole numbers. -/
def wholeNumbers : Target Int :=
  ⟨"i64", fun
    | .int n => some n
    | _ => none⟩

/-- Answers every request alike. -/
def always (body : String) : Transport Unit := ⟨fun _ _ => (.ok ⟨200, body.toUTF8⟩, ())⟩

/-- The ages of two people, as one delivery gives them: the first is not known, and the second is
no number. -/
def twoAges (d : Delivery) : Except Fault (Rows Int) :=
  (fetchAs d wholeNumbers (always "[\x7b\"age\":null\x7d,\x7b\"age\":\"x\"\x7d]")
    (.ofUrl ⟨"http", "", "", some (.name "localhost"), none, .segments [""], none, none⟩) ages
    .empty ()).1

/-- In blocking delivery the first row is told of, in async delivery the second. -/
theorem twoAges_differ :
    twoAges .blocking = .error (.badShape "i64") ∧
      twoAges .async = .error (.badField .load "Person" "Age" (.unexpected .int32 (.string "x"))) ∧
      (Fault.badShape "i64").message = "cannot shape row into i64" ∧
      (Fault.badField .load "Person" "Age" (.unexpected .int32 (.string "x"))).message =
        "Person.Age: expected int32, found JSON string" := by
  refine ⟨?_, ?_, ?_, ?_⟩
  · cbv
  · cbv
  · decide
  · decide

end Load

end RemoteTable
