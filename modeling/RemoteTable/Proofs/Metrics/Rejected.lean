import Mathlib
import RemoteTable.Metrics.Counters
import RemoteTable.Proofs.Metrics.Bracket
import RemoteTable.Proofs.Save.Exchanges

/-!
What is counted of batches that are rejected. A batch is planned before its entries are checked, and
the deletes that the plan leaves to the store are reported at once; so they are counted also if the
batch is then rejected, while nothing is if there is no plan. No other counts are touched.
-/

namespace RemoteTable

namespace Counters

/-- Counters that differ in nothing but the deletes that were left to the store. -/
structure SameButElided (c c' : Counters) : Prop where
  totals : c'.totals = { c.totals with deletesElided := c'.totals.deletesElided }
  tables : ∀ table, c'.ofTable table =
    { c.ofTable table with deletesElided := (c'.ofTable table).deletesElided }
  openedAt : c'.openedAt = c.openedAt

variable {c c' c'' : Counters}

theorem SameButElided.refl (c : Counters) : c.SameButElided c := ⟨rfl, fun _ => rfl, rfl⟩

theorem SameButElided.trans (h : c.SameButElided c') (h' : c'.SameButElided c'') :
    c.SameButElided c'' where
  totals := by
    rw [h'.totals, h.totals]
  tables table := by
    rw [h'.tables table, h.tables table]
  openedAt := h'.openedAt.trans h.openedAt

theorem sameButElided_record (c : Counters) (table : String) :
    c.SameButElided (c.record (.elided table)) := by
  refine ⟨rfl, fun table' => ?_, rfl⟩
  simp only [record, ofTable, Dict.find?_insert, Event.table]
  split
  next h =>
    subst h
    rfl
  next => rfl

theorem sameButElided_recordAll (c : Counters) (tables : List String) :
    c.SameButElided (c.recordAll (tables.map .elided)) := by
  induction tables generalizing c with
  | nil => exact .refl c
  | cons table tables ih => exact (sameButElided_record c table).trans (ih _)

/-- Each of them counts, up to the greatest count. -/
theorem deletesElided_recordAll (tables : List String) (hc : c.totals.deletesElided ≤ countMax) :
    (c.recordAll (tables.map .elided)).totals.deletesElided =
      min (c.totals.deletesElided + tables.length) countMax := by
  induction tables generalizing c with
  | nil => exact (Nat.min_eq_left hc).symm
  | cons table tables ih =>
    have hnext : (c.record (.elided table)).totals.deletesElided =
        min (c.totals.deletesElided + 1) countMax := rfl
    have hrest := ih (c := c.record (.elided table)) (hnext ▸ Nat.min_le_right ..)
    rw [hnext] at hrest
    rw [List.length_cons]
    exact hrest.trans (by omega)

/-- All counters stay as they are only if there are none. -/
theorem recordAll_elided_eq_iff {tables : List String} :
    (∀ c : Counters, c.recordAll (tables.map .elided) = c) ↔ tables = [] := by
  constructor
  · intro h
    have hcount := deletesElided_recordAll (c := .reset 0) tables (Nat.zero_le _)
    rw [h] at hcount
    have hzero : (Counters.reset 0).totals.deletesElided = 0 := rfl
    have hmax : countMax = 18446744073709551615 := rfl
    rw [hzero, hmax] at hcount
    exact List.length_eq_zero_iff.1 (by omega)
  · rintro rfl c
    rfl

end Counters

namespace Save

variable {σ : Type} {n : Nat} {d : Session σ}

/-- The tables of the deletes that the plan of a batch leaves to the store, if it has one. -/
def leftToStore (s : Schema) (entries : Vector Entry n) : List String :=
  match Plan.ofBatch s entries with
  | .ok p => p.elided.map fun i => Plan.tableOf s (entries.get i).entity
  | .error _ => []

theorem log_planning (d : Session σ) (entries : Vector Entry n) : (plan d entries).1 =
    (leftToStore d.schema entries).map fun table => .event (.elided table) := by
  unfold plan leftToStore
  cases Plan.ofBatch d.schema entries with
  | error f => rfl
  | ok p => simp [Plan.events]

/-- There is no plan for a type that is not registered, nor for a state that is not pending. -/
theorem leftToStore_eq_nil {schema : Schema} {entries : Vector Entry n} {i : Fin n}
    (h : schema.get? (entries.get i).entity = none ∨
      (entries.get i).state ∈ [ChangeState.unchanged, .detached]) :
    leftToStore schema entries = [] := by
  unfold leftToStore
  cases hbatch : Plan.ofBatch schema entries with
  | error f => rfl
  | ok p =>
    exfalso
    have hcheck := (Plan.ofBatch_eq_ok hbatch).2 i
    rcases h with h | h
    · simp [Plan.check, h] at hcheck
    · rcases Plan.state_of_check hcheck with hstate | hstate | hstate <;> simp [hstate] at h

variable {summary : Summary} {pending : List (Fin n)} {entries : Vector Entry n} {run : SaveRun σ n}

theorem Course.log_eq_nil (h : Course d summary pending entries [] run) : run.log = [] := by
  cases h <;> rfl

/-- Of a run that sends nothing only the planning is seen. -/
theorem log_start_of_unsent {patience : Option Nat} {s : σ}
    (h : (start d patience entries s).log.requests = []) :
    (start d patience entries s).log = (plan d entries).1 := by
  rw [requests_start, List.map_eq_nil_iff] at h
  rcases start_cases d patience entries s with ⟨-, f, hstart⟩ | ⟨p, r, -, hstart, hcourse⟩
  · rw [hstart]
  · rw [h] at hcourse
    rw [hstart, SaveRun.after, hcourse.log_eq_nil, List.append_nil]

/-- What is seen of a batch that is rejected before anything is sent is the deletes that it would
have left to the store, and nothing at all if one of its entries has a type that is not registered
or a state that is not pending. No other counts change, and none do exactly if there are no such
deletes. -/
theorem counted_of_rejected (d : Session σ) (polls : Option Nat) (entries : Vector Entry n) (s : σ)
    (f : Fault) (hending : (saveWithin d polls entries s).ending = .failed f)
    (hrequests : (saveWithin d polls entries s).log.requests = []) :
    (saveWithin d polls entries s).log =
        (leftToStore d.schema entries).map (fun table => .event (.elided table)) ∧
      (∀ i, d.schema.get? (entries.get i).entity = none ∨
          (entries.get i).state ∈ [ChangeState.unchanged, .detached] →
        (saveWithin d polls entries s).log = []) ∧
      (∀ c : Counters,
        c.SameButElided (c.recordAll (saveWithin d polls entries s).log.events)) ∧
      ((∀ c : Counters, c.recordAll (saveWithin d polls entries s).log.events = c) ↔
        leftToStore d.schema entries = []) := by
  -- a run that is never polled is abandoned, not rejected
  have hpolls : polls ≠ some 0 := by
    rintro rfl
    cases hending
  rw [saveWithin_eq_start hpolls] at hrequests ⊢
  have hlog := log_start_of_unsent hrequests
  rw [log_planning] at hlog
  have hevents : (start d (polls.map (· - 1)) entries s).log.events =
      (leftToStore d.schema entries).map .elided := by
    have hmap : (start d (polls.map (· - 1)) entries s).log =
        ((leftToStore d.schema entries).map Event.elided).map .event := by
      rw [hlog, List.map_map]
      rfl
    rw [hmap, Log.events_map]
  refine ⟨hlog, fun i hi => ?_, fun c => ?_, ?_⟩
  · rw [hlog, leftToStore_eq_nil hi, List.map_nil]
  · rw [hevents]
    exact c.sameButElided_recordAll _
  · rw [hevents]
    exact Counters.recordAll_elided_eq_iff

/-- Folders, and files that go when their folders do. -/
def archive : Schema := .ofList
  [⟨"Folder", "folders", [.ofName "Id" .int64], ["Id"], []⟩,
    ⟨"File", "files",
      [.ofName "Id" .int64, .ofName "FolderId" .int64, .ofName "Name" .text], ["Id"],
      [⟨["FolderId"], "Folder", [], .cascade⟩]⟩]

/-- The deletes of a folder and of a file, and the update of a file whose key is not known. -/
def archiveBatch (folder : Value) : Vector Entry 3 :=
  #v[(Entry.start "Folder" .deleted).assign "Id" (.int 1),
    ((Entry.start "File" .deleted).assign "Id" (.int 7)).assign "FolderId" folder,
    (Entry.start "File" .modified).assign "Name" (.text "notes")]

def archiveRun (folder : Value) : SaveRun (List Response) 3 :=
  saveWithin (scriptedSession archive) none (archiveBatch folder) []

/-- Nothing is counted if the file is in another folder. -/
theorem uncounted_archive : (archiveRun (.int 2)).ending = .failed (.noStoredKey "File" "Id") ∧
    (archiveRun (.int 2)).log.requests = [] ∧
    ∀ c : Counters, c.recordAll (archiveRun (.int 2)).log.events = c := by
  have hrun : archiveRun (.int 2) =
      ⟨.failed (.noStoredKey "File" "Id"), archiveBatch (.int 2), [], []⟩ := by cbv
  have hending := congrArg SaveRun.ending hrun
  have hrequests : (archiveRun (.int 2)).log.requests = [] := by
    rw [hrun]
    rfl
  obtain ⟨hlog, -, -, huncounted⟩ := counted_of_rejected (scriptedSession archive) none
    (archiveBatch (.int 2)) [] _ hending hrequests
  have hleft := List.map_eq_nil_iff.1 (hlog.symm.trans (congrArg SaveRun.log hrun))
  exact ⟨hending, hrequests, huncounted.2 hleft⟩

/-- A file in the folder counts as left to the store, though the folder is not deleted. -/
theorem counted_archive : (archiveRun (.int 1)).ending = .failed (.noStoredKey "File" "Id") ∧
    (archiveRun (.int 1)).log.requests = [] ∧
    (archiveRun (.int 1)).log.events = [.elided "files"] ∧
    (Counters.recordAll (.reset 0) (archiveRun (.int 1)).log.events).totals.deletesElided = 1 := by
  have hrun : archiveRun (.int 1) = ⟨.failed (.noStoredKey "File" "Id"), archiveBatch (.int 1),
      [.event (.elided "files")], []⟩ := by cbv
  rw [hrun]
  exact ⟨rfl, rfl, rfl, rfl⟩

end Save

end RemoteTable
