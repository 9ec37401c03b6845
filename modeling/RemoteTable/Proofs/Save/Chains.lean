import Mathlib
import RemoteTable.Proofs.Save.Dependents

/-!
Keys that flow down chains of references. Without circles among the types of a batch every principal
is sent before its dependents. A key that the store assigns then reaches those that hold its
stand-in, and a key that has only followed another one is not passed on any further.
-/

namespace RemoteTable.Save

open Repoint
open Relation (TransGen ReflTransGen)

variable {σ : Type} {n : Nat} {d : Session σ} {i j : Fin n} {entries : Vector Entry n} {s : σ}
  {m P : Entity} {k : ForeignKey} {p : Plan n}

/-- A type of a batch refers to a type of the batch, or to itself. -/
def PointsTo (schema : Schema) (entries : Vector Entry n) (a b : String) : Prop :=
  a ∈ entries.toList.map Entry.entity ∧ b ∈ entries.toList.map Entry.entity ∧
    ∃ m, schema.get? a = some m ∧ ∃ k ∈ m.foreignKeys, k.principal = b

theorem mem_types (entries : Vector Entry n) (i : Fin n) :
    (entries.get i).entity ∈ entries.toList.map Entry.entity :=
  List.mem_map_of_mem (Vector.mem_toList_iff.2 (Vector.getElem_mem i.isLt))

theorem mem_order_of_added (hplan : Plan.ofBatch d.schema entries = .ok p)
    (hi : (entries.get i).state = .added) : i ∈ p.order := by
  have hsound := Plan.ofBatch_sound hplan
  rcases List.mem_append.1 (hsound.complete.mem_iff.2 (List.mem_finRange i)) with h | h
  · exact h
  · have hdeleted := hsound.elided_deleted i h
    simp [hi] at hdeleted

/-- Without circles among the types of a batch, principals are inserted before their dependents. -/
theorem precedes_of_acyclic (hplan : Plan.ofBatch d.schema entries = .ok p)
    (hacyclic : ∀ t, ¬ TransGen (PointsTo d.schema entries) t t)
    (hi : (entries.get i).state = .added)
    (hm : d.schema.get? (entries.get i).entity = some m) (hk : Points m P k)
    (hj : (entries.get j).Inserts P) : p.Precedes j i := by
  have hmem : k ∈ m.foreignKeys := by
    obtain ⟨l, r, hsplit, -⟩ := hk.apart
    simp [hsplit]
  have hpoints : PointsTo d.schema entries (entries.get i).entity (entries.get j).entity :=
    ⟨mem_types entries i, mem_types entries j, m, hm, k, hmem, hk.principal.trans hj.2.symm⟩
  have hne : (entries.get i).entity ≠ (entries.get j).entity := fun h =>
    hacyclic _ (.single (h ▸ hpoints))
  refine (Plan.ofBatch_sound hplan).principals j (mem_order_of_added hplan hj.1) i
    (mem_order_of_added hplan hi) (hj.1.trans hi.symm) (by simp [hj.1])
    ⟨hpoints.1, hpoints.2.1, hne, hpoints.2.2⟩ fun hback => ?_
  have hle : ∀ a b, Plan.Refers d.schema entries a b → PointsTo d.schema entries a b :=
    fun a b h => ⟨h.1, h.2.1, h.2.2.2⟩
  exact hacyclic _ (.head' hpoints (ReflTransGen.mono hle _ _ hback))

/-- The texts of the values that a batch holds. -/
def presentTexts (entries : Vector Entry n) : List String :=
  entries.toList.flatMap fun e => e.slots.values.map fun slot => slot.current.wireText

/-- The texts of the values that the store assigns in a run. -/
def assignedTexts (log : Log) : List String :=
  log.filterMap fun
    | .generated _ _ v => some v.wireText
    | _ => none

theorem mem_presentTexts {q : String} (h : ((entries.get i).current q).isNull = false) :
    ((entries.get i).current q).wireText ∈ presentTexts entries := by
  have hentry : entries.get i ∈ entries.toList :=
    Vector.mem_toList_iff.2 (Vector.getElem_mem i.isLt)
  cases hslot : (entries.get i).slots.find? q with
  | none => simp [Entry.current, Entry.slot, hslot, Slot.blank, Value.isNull] at h
  | some slot =>
    obtain ⟨l, r, hlist, -⟩ := List.lookup_eq_some_iff.1 hslot
    have hmem : slot ∈ (entries.get i).slots.values := by simp [Dict.values, hlist]
    have hcurrent : (entries.get i).current q = slot.current := by
      simp [Entry.current, Entry.slot, hslot]
    exact List.mem_flatMap.2 ⟨_, hentry, hcurrent ▸ List.mem_map_of_mem hmem⟩

theorem mem_assignedTexts {log : Log} {i : Nat} {q : String} {v : Value}
    (h : .generated i q v ∈ log) : v.wireText ∈ assignedTexts log :=
  List.mem_filterMap.2 ⟨_, h, rfl⟩

/-- What an entry ends with and was not sent with is assigned by the store. -/
theorem assigned_of_changed {patience : Option Nat} {x : Sending n} {q : String}
    (hx : x ∈ sent d patience entries s)
    (h : ((start d patience entries s).entries.get x.position).current q ≠ x.entry.current q) :
    (((start d patience entries s).entries.get x.position).current q).wireText ∈
      assignedTexts (start d patience entries s).log := by
  obtain ⟨values, hlog, hfinal⟩ := accepted_of_mem_sent hx
  rw [hfinal] at h ⊢
  rcases current_acceptAll q with hsame | ⟨v, hv, hcurrent⟩
  · exact absurd hsame h
  · exact hcurrent ▸ mem_assignedTexts (hlog _ hv)

/-- In a run that ends well, every insert is sent with the keys of its principals, if what the store
assigns is new to the batch and the keys of the principals have not followed others before. -/
theorem exists_carries_of_done (hnamed : d.schema.Named) (hrepoints : d.repoints = true)
    (hP : d.schema.get? P.name = some P) (hk : Points m P k) (hkeys : DistinctKeys P entries)
    (hacyclic : ∀ t, ¬ TransGen (PointsTo d.schema entries) t t) {q : Summary}
    (hdone : (saveAll d entries s).ending = .done q)
    (hfresh : (assignedTexts (saveAll d entries s).log).Disjoint (presentTexts entries))
    (hkept : ∀ y ∈ sent d none entries s, y.entry.Inserts P →
      keyValues P y.entry = keyValues P (entries.get y.position))
    (hi : (entries.get i).state = .added)
    (hm : d.schema.get? (entries.get i).entity = some m) (hj : (entries.get j).Inserts P)
    (hheld : texts (k.heldBy (entries.get i)) = texts (k.namedBy P (entries.get j))) :
    ∃ x ∈ sent d none entries s, x.position = i ∧ launch d x.entry = .ok x.flight ∧
      Carries k P x.entry (entries.get j) ((saveAll d entries s).entries.get j) := by
  simp only [saveAll] at hdone hfresh ⊢
  rcases start_cases d none entries s with ⟨-, f, hstart⟩ | ⟨p, r, hplan, hstart, hcourse⟩
  · simp [hstart] at hdone
  have hbatch := (plan_eq_ok hplan).1
  have hpositions : (sent d none entries s).map Sending.position = p.order :=
    hcourse.positions_of_done (by rwa [hstart] at hdone)
  have hsent : ∀ z, (entries.get z).state = .added → ∃ x ∈ sent d none entries s, x.position = z :=
    fun z hz => List.mem_map.1 (hpositions ▸ mem_order_of_added hbatch hz)
  obtain ⟨x, hx, rfl⟩ := hsent i hi
  obtain ⟨y, hy, rfl⟩ := hsent j hj.1
  have hprecedes := precedes_of_acyclic hbatch hacyclic hi hm hk hj
  refine ⟨x, hx, rfl, launch_of_mem_sent hx, carries_of_kept hnamed hrepoints hP hk hkeys hbatch
    hx hkept hm (.inl hi) hj hprecedes hheld ?_⟩
  -- The key of another insert is one of the start, so the assigned key differs where it is new.
  intro z hz hyz _ htexts
  have hne : z ≠ y.position := by
    rintro rfl
    have := hyz.nodup (nodup_order hbatch)
    simp at this
  have hkey : ∀ q ∈ P.key, y.entry.current q = (entries.get y.position).current q :=
    List.map_inj_left.1 (hkept y hy ((inserts_of_repointed (repointed_of_mem_sent hy)).2 hj))
  refine hkeys.distinct _ _ hz hj hne (texts_map_eq_iff.2 fun q hq => ?_)
  have hq' := texts_map_eq_iff.1 htexts q hq
  by_cases hsame : ((start d none entries s).entries.get y.position).current q = y.entry.current q
  · rw [hq', hsame, hkey q hq]
  · exfalso
    refine hfresh (assigned_of_changed hy hsame) ?_
    rw [← hq']
    exact mem_presentTexts (hkeys.whole z hz q hq)

/-- Orders, their lines, which are known by the order and a number, and notes on the lines. -/
def order : Entity := ⟨"Order", "orders", [⟨"Id", "id", .text, true, false⟩], ["Id"], []⟩

def ofOrder : ForeignKey := ⟨["OrderId"], "Order", [], .cascade⟩

def line : Entity :=
  ⟨"Line", "lines",
    [⟨"OrderId", "order_id", .text, false, false⟩, ⟨"No", "no", .text, false, false⟩],
    ["OrderId", "No"], [ofOrder]⟩

def ofLine : ForeignKey := ⟨["LineOrder", "LineNo"], "Line", [], .cascade⟩

def note : Entity :=
  ⟨"Note", "notes",
    [⟨"Id", "id", .text, true, false⟩, ⟨"LineOrder", "line_order", .text, false, false⟩,
      ⟨"LineNo", "line_no", .text, false, false⟩],
    ["Id"], [ofLine]⟩

def sales : Session (List Response) := scriptedSession (.ofList [order, line, note])

/-- A new order with a line that has a note. -/
def salesBatch : Vector Entry 3 :=
  #v[(Entry.start "Order" .added).assignTemporary "Id" (.text "new"),
    ((Entry.start "Line" .added).assign "OrderId" (.text "new")).assign "No" (.text "7"),
    (((Entry.start "Note" .added).assignTemporary "Id" (.text "n")).assign
      "LineOrder" (.text "new")).assign "LineNo" (.text "7")]

/-- The store assigns keys to the order and to the note. -/
def salesReplies : List Response := assigning ["100"] ++ ⟨201, .empty⟩ :: assigning ["200"]

theorem plan_salesBatch : plan sales salesBatch = ([], .ok ⟨[0, 1, 2], []⟩) := by cbv

theorem points_ofOrder : Points line order ofOrder :=
  ⟨⟨[], [], rfl, by simp⟩, rfl, by decide, rfl, .refl _⟩

theorem points_ofLine : Points note line ofLine :=
  ⟨⟨[], [], rfl, by simp⟩, rfl, by decide, rfl, .refl _⟩

theorem distinctKeys_salesBatch :
    DistinctKeys order salesBatch ∧ DistinctKeys line salesBatch ∧ DistinctKeys note salesBatch :=
  ⟨⟨by decide +kernel, by decide +kernel⟩, ⟨by decide +kernel, by decide +kernel⟩,
    ⟨by decide +kernel, by decide +kernel⟩⟩

/-- How far a type of the batch is from the orders. -/
def salesRank (type : String) : Nat :=
  if type = "Order" then 0 else if type = "Line" then 1 else 2

theorem salesRank_lt {a b : String} (h : PointsTo sales.schema salesBatch a b) :
    salesRank b < salesRank a := by
  have htypes : salesBatch.toList.map Entry.entity = ["Order", "Line", "Note"] := rfl
  have horder : sales.schema.get? "Order" = some order := by cbv
  have hline : sales.schema.get? "Line" = some line := by cbv
  have hnote : sales.schema.get? "Note" = some note := by cbv
  obtain ⟨ha, -, m, hm, k, hk, rfl⟩ := h
  rw [htypes] at ha
  simp only [List.mem_cons, List.not_mem_nil, or_false] at ha
  rcases ha with rfl | rfl | rfl
  · cases horder.symm.trans hm
    simp [order] at hk
  · cases hline.symm.trans hm
    cases List.mem_singleton.1 hk
    decide
  · cases hnote.symm.trans hm
    cases List.mem_singleton.1 hk
    decide

theorem acyclic_salesBatch (t : String) : ¬ TransGen (PointsTo sales.schema salesBatch) t t := by
  have hlt : ∀ {a b : String}, TransGen (PointsTo sales.schema salesBatch) a b →
      salesRank b < salesRank a := by
    intro a b h
    induction h with
    | single h => exact salesRank_lt h
    | tail _ h ih => exact (salesRank_lt h).trans ih
  exact fun h => Nat.lt_irrefl _ (hlt h)

theorem done_salesBatch : (saveAll sales salesBatch salesReplies).ending = .done ⟨3, 0⟩ := by
  refine eq_done_of_summary? ?_
  rw [saveAll, start_eq plan_salesBatch]
  decide +kernel

theorem fresh_salesBatch :
    (assignedTexts (saveAll sales salesBatch salesReplies).log).Disjoint
      (presentTexts salesBatch) := by
  have hassigned : assignedTexts (saveAll sales salesBatch salesReplies).log = ["100", "200"] := by
    rw [saveAll, start_eq plan_salesBatch]
    decide +kernel
  have hpresent : presentTexts salesBatch = ["new", "7", "new", "n", "7", "new"] := by
    decide +kernel
  rw [hassigned, hpresent, List.disjoint_left]
  decide

/-- The key of the order reaches its line. -/
theorem exists_carries_line : ∃ x ∈ sent sales none salesBatch salesReplies, x.position = 1 ∧
    launch sales x.entry = .ok x.flight ∧ Carries ofOrder order x.entry (salesBatch.get 0)
      ((saveAll sales salesBatch salesReplies).entries.get 0) := by
  have hP : sales.schema.get? order.name = some order := by cbv
  have hm : sales.schema.get? (salesBatch.get 1).entity = some line := by cbv
  have hheld : texts (ofOrder.heldBy (salesBatch.get 1)) =
      texts (ofOrder.namedBy order (salesBatch.get 0)) := by decide +kernel
  exact exists_carries_of_done (Schema.named_ofList _) rfl hP points_ofOrder
    distinctKeys_salesBatch.1 acyclic_salesBatch done_salesBatch fresh_salesBatch
    (fun y hy hinserts => keyValues_of_disjoint hP (by simp [order]) hy hinserts) rfl hm
    ⟨rfl, rfl⟩ hheld

/-- The key of the line, which has followed that of the order, does not reach its note. -/
theorem not_carries_note :
    (saveAll sales salesBatch salesReplies).ending = .done ⟨3, 0⟩ ∧
      (assignedTexts (saveAll sales salesBatch salesReplies).log).Disjoint
        (presentTexts salesBatch) ∧
      (∀ t, ¬ TransGen (PointsTo sales.schema salesBatch) t t) ∧
      DistinctKeys order salesBatch ∧ DistinctKeys line salesBatch ∧
      DistinctKeys note salesBatch ∧
      Points note line ofLine ∧
      texts (ofLine.heldBy (salesBatch.get 2)) = keyTexts line (salesBatch.get 1) ∧
      keyTexts line ((saveAll sales salesBatch salesReplies).entries.get 1) = ["100", "7"] ∧
      (sent sales none salesBatch salesReplies)[2]?.map
        (fun x => (x.position, texts (ofLine.heldBy x.entry))) = some (2, ["new", "7"]) := by
  obtain ⟨horder, hline, hnote⟩ := distinctKeys_salesBatch
  refine ⟨done_salesBatch, fresh_salesBatch, acyclic_salesBatch, horder, hline, hnote,
    points_ofLine, by decide +kernel, ?_, ?_⟩
  · rw [saveAll, start_eq plan_salesBatch]
    decide +kernel
  · rw [sent_eq (congrArg Prod.snd plan_salesBatch)]
    decide +kernel

end RemoteTable.Save
