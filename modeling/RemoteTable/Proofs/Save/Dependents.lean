import Mathlib
import RemoteTable.Proofs.Save.Following

/-!
Keys that the store assigns, as dependents see them. A dependent is sent with the key of its own
principal unless the run moves one of the two in between: if an assigned key is the stand-in of
another insert, or if the key of the principal has itself followed another key.
-/

namespace RemoteTable.Save

open Repoint

variable {σ : Type} {n : Nat} {d : Session σ} {i j : Fin n} {entries : Vector Entry n} {s : σ}
  {patience : Option Nat} {m P : Entity} {k : ForeignKey} {p : Plan n}

theorem inserts_of_repointed {schema : Schema} {e e' : Entry} (h : Repointed schema e e') :
    e'.Inserts P ↔ e.Inserts P := by
  rw [Entry.Inserts, Entry.Inserts, h.state, h.entity]

theorem mem_of_pair_sublist {α : Type} {l r : List α} {a b : α} (hnodup : (l ++ b :: r).Nodup)
    (h : [a, b].Sublist (l ++ b :: r)) : a ∈ l := by
  induction l with
  | nil =>
    have hb := (List.nodup_cons.1 hnodup).1
    cases h with
    | cons _ h => exact absurd (h.subset (by simp)) hb
    | cons_cons _ h => exact absurd (h.subset (by simp)) hb
  | cons c l ih =>
    cases h with
    | cons _ h => exact List.mem_cons_of_mem _ (ih (List.nodup_cons.1 hnodup).2 h)
    | cons_cons _ _ => exact List.mem_cons_self

/-- What is sent up to an entry, split at another one that the plan puts before it. -/
theorem Course.exists_split {summary : Summary} {pending : List (Fin n)} {l : List (Sending n)}
    {x : Sending n} {r : SaveRun σ n} (h : Course d summary pending entries l r)
    (hpending : pending.Nodup) (hx : x ∈ l) (hjx : [j, x.position].Sublist pending) :
    ∃ before y between after, l = before ++ y :: between ++ x :: after ∧ y.position = j ∧
      (∀ z ∈ before, z.position ≠ j) ∧
      ∀ z ∈ between,
        [j, z.position].Sublist pending ∧ [z.position, x.position].Sublist pending := by
  obtain ⟨l', after, rfl⟩ := List.append_of_mem hx
  obtain ⟨rest, hrest⟩ := h.positions
  rw [List.map_append, List.map_cons, List.append_assoc, List.cons_append] at hrest
  rw [← hrest] at hpending hjx ⊢
  obtain ⟨y, hy, rfl⟩ := List.mem_map.1 (mem_of_pair_sublist hpending hjx)
  obtain ⟨before, between, rfl⟩ := List.append_of_mem hy
  refine ⟨before, y, between, after, rfl, rfl, fun z hz => ?_, fun z hz => ⟨?_, ?_⟩⟩
  · have hbefore := (List.nodup_append.1 hpending).1
    rw [List.map_append, List.map_cons] at hbefore
    exact (List.nodup_append.1 hbefore).2.2 _ (List.mem_map_of_mem hz) _ List.mem_cons_self
  · have hyz : [y.position, z.position].Sublist ((y :: between).map Sending.position) :=
      (List.singleton_sublist.2 (List.mem_map_of_mem hz)).cons_cons _
    rw [List.map_append]
    exact (hyz.trans (List.sublist_append_right _ _)).trans (List.sublist_append_left _ _)
  · refine Plan.pair_sublist_append ?_ List.mem_cons_self
    exact List.mem_map_of_mem (List.mem_append_right _ (List.mem_cons_of_mem _ hz))

/-- A dependent that is sent after its principal carries the key of the principal, if the keys of
inserts are sent as they are at the start, and the key that the store assigns to the principal is
not that of another insert which is sent between them. -/
theorem carries_of_kept (hnamed : d.schema.Named) (hrepoints : d.repoints = true)
    (hP : d.schema.get? P.name = some P) (hk : Points m P k) (hkeys : DistinctKeys P entries)
    (hplan : Plan.ofBatch d.schema entries = .ok p) {x : Sending n}
    (hx : x ∈ sent d patience entries s)
    (hkept : ∀ y ∈ sent d patience entries s, y.entry.Inserts P →
      keyValues P y.entry = keyValues P (entries.get y.position))
    (hm : d.schema.get? (entries.get x.position).entity = some m)
    (hstate : (entries.get x.position).state = .added ∨
      (entries.get x.position).state = .modified)
    (hj : (entries.get j).Inserts P) (hjx : p.Precedes j x.position)
    (hheld : texts (k.heldBy (entries.get x.position)) = texts (k.namedBy P (entries.get j)))
    (hfresh : ∀ z, (entries.get z).Inserts P → p.Precedes j z → p.Precedes z x.position →
      keyTexts P (entries.get z) ≠ keyTexts P ((start d patience entries s).entries.get j)) :
    Carries k P x.entry (entries.get j) ((start d patience entries s).entries.get j) := by
  obtain ⟨p', r, hbatch, hstart, hcourse⟩ := exists_course hx
  cases hplan.symm.trans hbatch
  have hnodup := nodup_order hplan
  obtain ⟨before, y, between, after, hsplit, rfl, hbefore, hbetween⟩ :=
    hcourse.exists_split hnodup hx hjx
  have hstarts : ∀ z ∈ sent d patience entries s, z.entry.Inserts P →
      (entries.get z.position).Inserts P ∧
        keyTexts P z.entry = keyTexts P (entries.get z.position) := fun z hz hinserts =>
    ⟨(inserts_of_repointed (repointed_of_mem_sent hz)).1 hinserts,
      congrArg texts (hkept z hz hinserts)⟩
  have hy : y ∈ sent d patience entries s := by simp [hsplit]
  have hyinserts := (inserts_of_repointed (repointed_of_mem_sent hy)).2 hj
  have hytexts := (hstarts y hy hyinserts).2
  have hyvalues : ∀ q ∈ P.key, y.entry.current q = (entries.get y.position).current q :=
    List.map_inj_left.1 (hkept y hy hyinserts)
  rw [hstart] at hfresh ⊢
  have hcarries : Carries k P x.entry y.entry (r.entries.get y.position) := by
    refine hcourse.carries hnamed hrepoints hP hk hnodup hsplit hm hstate hyinserts ?_ ?_ ?_ ?_
    · exact fun q hq => hyvalues q hq ▸ hkeys.whole _ hj q hq
    · exact hheld.trans ((texts_namedBy_eq_iff hk).2 hytexts.symm)
    · intro z hz hzinserts
      obtain ⟨hzstart, hztexts⟩ := hstarts z (by simp [hsplit, hz]) hzinserts
      rw [hytexts, hztexts]
      exact hkeys.distinct _ _ hzstart hj (hbefore z hz)
    · intro z hz hzinserts
      obtain ⟨hzstart, hztexts⟩ := hstarts z (by simp [hsplit, hz]) hzinserts
      rw [hztexts]
      exact hfresh z.position hzstart (hbetween z hz).1 (hbetween z hz).2
  exact ⟨hcarries.texts, fun h => hcarries.values (hytexts ▸ h)⟩

/-- A key without properties of references is sent as it is at the start. -/
theorem keyValues_of_disjoint (hP : d.schema.get? P.name = some P)
    (hown : ∀ k' ∈ P.foreignKeys, P.key.Disjoint k'.properties) {x : Sending n}
    (hx : x ∈ sent d patience entries s) (hinserts : x.entry.Inserts P) :
    keyValues P x.entry = keyValues P (entries.get x.position) := by
  have hrepointed := repointed_of_mem_sent hx
  have hmodel : d.schema.get? (entries.get x.position).entity = some P :=
    ((inserts_of_repointed hrepointed).1 hinserts).2 ▸ hP
  exact List.map_congr_left fun q hq => hrepointed.current hmodel fun k' hk' => hown k' hk' hq

/-- A dependent that is sent after its principal carries the key that the store has assigned to it,
unless that is the stand-in of another insert which is sent between them. An update sends what it
has taken over. -/
theorem carries_assigned (hnamed : d.schema.Named) (hrepoints : d.repoints = true)
    (hP : d.schema.get? P.name = some P)
    (hown : ∀ k' ∈ P.foreignKeys, P.key.Disjoint k'.properties) (hk : Points m P k)
    (hkeys : DistinctKeys P entries) (hplan : Plan.ofBatch d.schema entries = .ok p)
    {x : Sending n} (hx : x ∈ sent d patience entries s)
    (hm : d.schema.get? (entries.get x.position).entity = some m)
    (hstate : (entries.get x.position).state = .added ∨
      (entries.get x.position).state = .modified)
    (hj : (entries.get j).Inserts P) (hjx : p.Precedes j x.position)
    (hheld : texts (k.heldBy (entries.get x.position)) = texts (k.namedBy P (entries.get j)))
    (hfresh : ∀ z, (entries.get z).Inserts P → p.Precedes j z → p.Precedes z x.position →
      keyTexts P (entries.get z) ≠ keyTexts P ((start d patience entries s).entries.get j)) :
    Carries k P x.entry (entries.get j) ((start d patience entries s).entries.get j) ∧
      ((entries.get x.position).state = .modified → ∀ q ∈ k.properties,
        x.entry.current q ≠ (entries.get x.position).current q → x.entry.isChanged q = true) := by
  have hkept : ∀ y ∈ sent d patience entries s, y.entry.Inserts P →
      keyValues P y.entry = keyValues P (entries.get y.position) :=
    fun y hy hinserts => keyValues_of_disjoint hP hown hy hinserts
  have hcarries := carries_of_kept hnamed hrepoints hP hk hkeys hplan hx hkept hm hstate hj hjx
    hheld hfresh
  exact ⟨hcarries, fun hmodified q _ hq => (repointed_of_mem_sent hx).isChanged hmodified hq⟩

/-- Parents and their children, all with keys that the store assigns. -/
def parent : Entity := ⟨"Parent", "parents", [⟨"Id", "id", .text, true, false⟩], ["Id"], []⟩

def ofParent : ForeignKey := ⟨["ParentId"], "Parent", [], .cascade⟩

def child : Entity :=
  ⟨"Child", "children",
    [⟨"Id", "id", .text, true, false⟩, ⟨"ParentId", "parent_id", .text, false, false⟩], ["Id"],
    [ofParent]⟩

def family : Session (List Response) := scriptedSession (.ofList [parent, child])

/-- Two parents, and a child of the first. -/
def familyBatch : Vector Entry 3 :=
  #v[(Entry.start "Parent" .added).assignTemporary "Id" (.text "a"),
    (Entry.start "Parent" .added).assignTemporary "Id" (.text "b"),
    ((Entry.start "Child" .added).assignTemporary "Id" (.text "c")).assign "ParentId" (.text "a")]

theorem points_ofParent : Points child parent ofParent :=
  ⟨⟨[], [], rfl, by simp⟩, rfl, by decide, rfl, .refl _⟩

theorem distinctKeys_familyBatch : DistinctKeys parent familyBatch :=
  ⟨by decide +kernel, by decide +kernel⟩

theorem plan_familyBatch : plan family familyBatch = ([], .ok ⟨[0, 1, 2], []⟩) := by cbv

/-- Keys that are no stand-ins reach the child of the right parent. -/
theorem carries_ownParent : ∃ x ∈ sent family none familyBatch (assigning ["1", "2", "3"]),
    x.position = 2 ∧ Carries ofParent parent x.entry (familyBatch.get 0)
      ((start family none familyBatch (assigning ["1", "2", "3"])).entries.get 0) := by
  have hplan := congrArg Prod.snd plan_familyBatch
  have hsent : (sent family none familyBatch (assigning ["1", "2", "3"]))[2]?.map
      Sending.position = some 2 := by
    rw [sent_eq hplan]
    decide +kernel
  have hfinal : keyTexts parent
      ((start family none familyBatch (assigning ["1", "2", "3"])).entries.get 0) = ["1"] := by
    rw [start_eq plan_familyBatch]
    decide +kernel
  obtain ⟨x, hget, hx⟩ := Option.map_eq_some_iff.1 hsent
  have hmem := List.mem_of_getElem? hget
  have hnamed : family.schema.Named := Schema.named_ofList _
  have hP : family.schema.get? parent.name = some parent := by cbv
  have hm : family.schema.get? (familyBatch.get x.position).entity = some child := by
    rw [hx]
    cbv
  have hstate : (familyBatch.get x.position).state = .added := by
    rw [hx]
    rfl
  have hheld : texts (ofParent.heldBy (familyBatch.get x.position)) =
      texts (ofParent.namedBy parent (familyBatch.get 0)) := by
    rw [hx]
    decide +kernel
  have hjx : (Plan.mk [0, 1, 2] []).Precedes (0 : Fin 3) x.position := by
    rw [hx, Plan.Precedes]
    decide
  refine ⟨x, hmem, hx, ?_⟩
  refine (carries_assigned hnamed rfl hP (by simp [parent]) points_ofParent
    distinctKeys_familyBatch (plan_eq_ok hplan).1 hmem hm (.inl hstate) ⟨rfl, rfl⟩ hjx hheld ?_).1
  rw [hfinal]
  have hother : ∀ z, (familyBatch.get z).Inserts parent →
      keyTexts parent (familyBatch.get z) ≠ ["1"] := by decide +kernel
  exact fun z hz _ _ => hother z hz

/-- If the store gives the first parent the key that stands in for that of the second one, the
child follows the second. -/
theorem carries_otherParent :
    DistinctKeys parent familyBatch ∧
      texts (ofParent.heldBy (familyBatch.get 2)) = keyTexts parent (familyBatch.get 0) ∧
      keyTexts parent
        ((saveAll family familyBatch (assigning ["b", "2", "3"])).entries.get 0) = ["b"] ∧
      keyTexts parent
        ((saveAll family familyBatch (assigning ["b", "2", "3"])).entries.get 1) = ["2"] ∧
      (sent family none familyBatch (assigning ["b", "2", "3"]))[2]?.map
        (fun x => (x.position, texts (ofParent.heldBy x.entry))) = some (2, ["2"]) := by
  refine ⟨distinctKeys_familyBatch, by decide +kernel, ?_, ?_, ?_⟩
  · rw [saveAll, start_eq plan_familyBatch]
    decide +kernel
  · rw [saveAll, start_eq plan_familyBatch]
    decide +kernel
  · rw [sent_eq (congrArg Prod.snd plan_familyBatch)]
    decide +kernel

end RemoteTable.Save
