import RemoteTable.Proofs.Change.Order

/-!
Deletes left to the store. A delete is left out exactly if a chain of covers leads from it to a
delete that nothing covers, so the cascades of what is sent remove every row that is left out.
-/

namespace RemoteTable.Cascade

open Relation (ReflTransGen TransGen)

variable {n : Nat}

section

variable {g : Digraph n} {a : Vector Bool n}

/-- A node is anchored in the graph if it leads to one without successors. -/
def Anchored (g : Digraph n) (i : Fin n) : Prop := ∃ j, g.Reaches i j ∧ g.get j = []

theorem get_anchor (a : Vector Bool n) (i k : Fin n) :
    (anchor g a i).get k = (a.get k || decide (k = i) && (g.get i).any a.get) := by
  have hset : (a.set i.val true i.isLt).get k = if i.val = k.val then true else a.get k :=
    Vector.getElem_set i.isLt k.isLt
  unfold anchor
  by_cases hk : k = i
  · subst hk
    split
    next h =>
      simp only [Bool.and_eq_true] at h
      rw [hset]
      simp [h.2]
    next h => cases hak : a.get k <;> simp_all
  · have hne : ¬ i.val = k.val := fun h => hk (Fin.ext h.symm)
    split <;> simp [hset, hne, hk]

theorem get_uncovered (g : Digraph n) (i : Fin n) : (uncovered g).get i = (g.get i).isEmpty :=
  Vector.getElem_ofFn i.isLt

theorem anchored_anchor (h : ∀ k, a.get k = true → Anchored g k) (i : Fin n) :
    ∀ k, (anchor g a i).get k = true → Anchored g k := by
  intro k hk
  rw [get_anchor] at hk
  simp only [Bool.or_eq_true, Bool.and_eq_true, decide_eq_true_eq, List.any_eq_true] at hk
  rcases hk with hk | ⟨rfl, c, hc, hac⟩
  · exact h k hk
  · obtain ⟨j, hj, hend⟩ := h c hac
    exact ⟨j, .head hc hj, hend⟩

/-- Anchoring one node after another only adds nodes. -/
theorem foldl_anchor_mono (nodes : List (Fin n)) {k : Fin n} (hk : a.get k = true) :
    (nodes.foldl (anchor g) a).get k = true := by
  induction nodes generalizing a with
  | nil => exact hk
  | cons i nodes ih => exact ih (by simp [get_anchor, hk])

theorem foldl_anchor_sound (nodes : List (Fin n)) (h : ∀ k, a.get k = true → Anchored g k) :
    ∀ k, (nodes.foldl (anchor g) a).get k = true → Anchored g k := by
  induction nodes generalizing a with
  | nil => exact h
  | cons i nodes ih => exact ih (anchored_anchor h i)

theorem foldl_anchor_step (nodes : List (Fin n)) {i c : Fin n} (hi : i ∈ nodes) (hc : c ∈ g.get i)
    (hac : a.get c = true) : (nodes.foldl (anchor g) a).get i = true := by
  induction nodes generalizing a with
  | nil => exact absurd hi List.not_mem_nil
  | cons k nodes ih =>
    rcases List.mem_cons.1 hi with rfl | hi
    · refine foldl_anchor_mono nodes ?_
      rw [get_anchor]
      have hany : (g.get i).any a.get = true := List.any_eq_true.2 ⟨c, hc, hac⟩
      simp [hany]
    · exact ih hi (by simp [get_anchor, hac])

/-- The nodes that are not anchored yet. -/
def pending (a : Vector Bool n) : Finset (Fin n) := Finset.univ.filter fun i => a.get i = false

theorem card_pending_pass (h : pass g a ≠ a) : (pending (pass g a)).card < (pending a).card := by
  refine Finset.card_lt_card ⟨fun i hi => ?_, fun hsub => h ?_⟩
  · simp only [pending, Finset.mem_filter, Finset.mem_univ, true_and] at hi ⊢
    by_contra ha
    have := foldl_anchor_mono (List.finRange n) (g := g) (by simpa using ha)
    simp [pass, this] at hi
  · refine Vector.ext fun i hi => ?_
    show (pass g a).get ⟨i, hi⟩ = a.get ⟨i, hi⟩
    cases ha : a.get ⟨i, hi⟩ with
    | true => exact foldl_anchor_mono _ ha
    | false =>
      have hmem : (⟨i, hi⟩ : Fin n) ∈ pending (pass g a) := hsub (by simp [pending, ha])
      simpa [pending] using hmem

/-- Nothing is left to anchor. -/
def Stable (g : Digraph n) (a : Vector Bool n) : Prop :=
  ∀ i c, c ∈ g.get i → a.get c = true → a.get i = true

theorem stable_of_pass (h : pass g a = a) : Stable g a := by
  intro i c hc hac
  rw [← h]
  exact foldl_anchor_step (List.finRange n) (List.mem_finRange i) hc hac

theorem settle_sound (fuel : Nat) (h : ∀ k, a.get k = true → Anchored g k) :
    ∀ k, (settle g fuel a).get k = true → Anchored g k := by
  induction fuel generalizing a with
  | zero => exact h
  | succ fuel ih =>
    unfold settle
    simp only
    split
    next => exact h
    next => exact ih (foldl_anchor_sound _ h)

theorem settle_mono (fuel : Nat) {k : Fin n} (hk : a.get k = true) :
    (settle g fuel a).get k = true := by
  induction fuel generalizing a with
  | zero => exact hk
  | succ fuel ih =>
    unfold settle
    simp only
    split
    next => exact hk
    next => exact ih (foldl_anchor_mono _ hk)

/-- Each pass but the last anchors a node, so there is fuel for all of them. -/
theorem settle_stable (fuel : Nat) (h : (pending a).card ≤ fuel) : Stable g (settle g fuel a) := by
  induction fuel generalizing a with
  | zero =>
    intro i c hc hac
    have hempty : pending a = ∅ := Finset.card_eq_zero.1 (Nat.le_zero.1 h)
    have hi : i ∉ pending a := by simp [hempty]
    simpa [pending, settle] using hi
  | succ fuel ih =>
    unfold settle
    simp only
    split
    next hpass => exact stable_of_pass hpass
    next hpass =>
      have := card_pending_pass hpass
      exact ih (by omega)

theorem settle_iff (g : Digraph n) (i : Fin n) :
    (settle g n (uncovered g)).get i = true ↔ Anchored g i := by
  constructor
  · refine settle_sound n (fun k hk => ⟨k, .refl, ?_⟩) i
    simpa [get_uncovered] using hk
  · rintro ⟨j, hij, hend⟩
    have hcard : (pending (uncovered g)).card ≤ n := by
      simpa using Finset.card_le_univ (pending (uncovered g))
    have hstable : Stable g (settle g n (uncovered g)) := settle_stable n hcard
    have hj : (settle g n (uncovered g)).get j = true :=
      settle_mono n (by simp [get_uncovered, hend])
    induction hij using ReflTransGen.head_induction_on with
    | refl => exact hj
    | head hc _ ih => exact hstable _ _ hc ih

end

/-- A reference of one row holds the key of the other: none of its values is null, and all have the
texts of the key. -/
def HoldsKey (k : ForeignKey) (principalModel : Entity) (dependent principal : Entry) : Prop :=
  k.resolvedKey principalModel ≠ [] ∧
    (k.resolvedKey principalModel).length = k.properties.length ∧
    ∀ x ∈ k.properties.zip (k.resolvedKey principalModel),
      dependent.stored x.1 ≠ .null ∧
        (dependent.stored x.1).wireText = (principal.stored x.2).wireText

/-- The delete of `j` takes the row of the delete of `i` with it. -/
structure Covered (s : Schema) (entries : Vector Entry n) (i j : Fin n) : Prop where
  ne : i ≠ j
  dependent_deleted : (entries.get i).state = .deleted
  principal_deleted : (entries.get j).state = .deleted
  cascade : ∃ m pm, s.get? (entries.get i).entity = some m ∧
    s.get? (entries.get j).entity = some pm ∧ ∃ k ∈ m.foreignKeys, k.onDelete = .cascade ∧
      k.principal = (entries.get j).entity ∧ HoldsKey k pm (entries.get i) (entries.get j)

/-- Covers lead from a delete, in one step or more, to one that nothing covers. -/
def LeadsToSent (s : Schema) (entries : Vector Entry n) (i j : Fin n) : Prop :=
  TransGen (Covered s entries) i j ∧ ∀ k, ¬ Covered s entries j k

section

variable {s : Schema} {entries : Vector Entry n} {i j : Fin n}

theorem refersTo_iff {k : ForeignKey} {pm : Entity} {d p : Entry} :
    refersTo k pm d p = true ↔ HoldsKey k pm d p := by
  have hnull : ∀ v : Value, v.isNull = false ↔ v ≠ .null := by
    intro v
    cases v <;> simp [Value.isNull]
  simp [refersTo, HoldsKey, hnull, and_assoc]

theorem covers_iff {d p : Entry} : covers s d p = true ↔
    ∃ m pm, s.get? d.entity = some m ∧ s.get? p.entity = some pm ∧
      ∃ k ∈ m.foreignKeys, k.onDelete = .cascade ∧ k.principal = p.entity ∧ HoldsKey k pm d p := by
  unfold covers
  cases s.get? d.entity with
  | none => simp
  | some m =>
    cases s.get? p.entity with
    | none => simp
    | some pm => simp [refersTo_iff, ForeignKey.cascades, and_assoc]

theorem edge_graph : (graph s entries).Edge i j ↔ Covered s entries i j := by
  have hget : (graph s entries).get i =
      if isDelete (entries.get i) then
        (List.finRange n).filter fun j =>
          j != i && isDelete (entries.get j) && covers s (entries.get i) (entries.get j)
      else [] :=
    Vector.getElem_ofFn i.isLt
  unfold Digraph.Edge
  rw [hget]
  constructor
  · intro h
    split at h
    next hi =>
      simp only [List.mem_filter, Bool.and_eq_true, bne_iff_ne] at h
      obtain ⟨_, ⟨hne, hj⟩, hcovers⟩ := h
      exact ⟨Ne.symm hne, by simpa [isDelete] using hi, by simpa [isDelete] using hj,
        covers_iff.1 hcovers⟩
    next => exact absurd h List.not_mem_nil
  · rintro ⟨hne, hi, hj, hcovers⟩
    have hc := covers_iff.2 hcovers
    simp [isDelete, hi, hj, hc, Ne.symm hne]

theorem uncovered_iff : (graph s entries).get j = [] ↔ ∀ k, ¬ Covered s entries j k := by
  rw [List.eq_nil_iff_forall_not_mem]
  exact forall_congr' fun k => not_congr edge_graph

theorem reaches_graph :
    (graph s entries).Reaches i j ↔ ReflTransGen (Covered s entries) i j := by
  have hedge : (graph s entries).Edge = Covered s entries := by
    funext i j
    exact propext edge_graph
  rw [Digraph.Reaches, hedge]

/-- What is left to the store, by chains of covers. -/
theorem mem_elided : i ∈ elided s entries ↔ ∃ j, LeadsToSent s entries i j := by
  unfold elided
  simp only [List.mem_filter, List.mem_finRange, true_and, Bool.and_eq_true, Bool.not_eq_true']
  rw [settle_iff]
  constructor
  · rintro ⟨⟨_, j, hij, hend⟩, hcovered⟩
    refine ⟨j, ?_, uncovered_iff.1 hend⟩
    rcases (reaches_graph.1 hij).cases_head with rfl | ⟨k, hik, hkj⟩
    · simp [hend] at hcovered
    · exact .head' hik hkj
  · rintro ⟨j, hij, hend⟩
    obtain ⟨k, hik, _⟩ := TransGen.head'_iff.1 hij
    refine ⟨⟨by simp [isDelete, hik.dependent_deleted], j,
      reaches_graph.2 hij.to_reflTransGen, uncovered_iff.2 hend⟩, ?_⟩
    have hmem := edge_graph.2 hik
    cases hg : (graph s entries).get i with
    | nil => simp [Digraph.Edge, hg] at hmem
    | cons _ _ => rfl

end

end RemoteTable.Cascade

namespace RemoteTable.Plan

variable {n : Nat}

/-- In a plan, the deletes left to the store are those from which covers lead to a delete that
nothing covers. Such a delete is sent, and so is every delete without a chain to one. -/
theorem elided_iff_leadsToSent (s : Schema) (entries : Vector Entry n) (i : Fin n) :
    (i ∈ Cascade.elided s entries ↔ ∃ j, Cascade.LeadsToSent s entries i j) ∧
      ∀ p, ofBatch s entries = .ok p →
        (i ∈ p.elided ↔ ∃ j ∈ p.order, Cascade.LeadsToSent s entries i j) ∧
        ((entries.get i).state = .deleted → (¬ ∃ j, Cascade.LeadsToSent s entries i j) →
          i ∈ p.order) := by
  refine ⟨Cascade.mem_elided, fun p hp => ?_⟩
  obtain ⟨rfl, _⟩ := ofBatch_eq_ok hp
  have hsent : ∀ {j}, (entries.get j).state = .deleted →
      (¬ ∃ k, Cascade.LeadsToSent s entries j k) → j ∈ (arrange s entries).order := by
    intro j hj hnone
    exact mem_order.2 (.inr (.inr (mem_deletes.2 ⟨hj, fun he => hnone (Cascade.mem_elided.1 he)⟩)))
  refine ⟨⟨fun h => ?_, fun ⟨j, _, hj⟩ => Cascade.mem_elided.2 ⟨j, hj⟩⟩, fun hi => hsent hi⟩
  obtain ⟨j, hij, hend⟩ := Cascade.mem_elided.1 h
  obtain ⟨k, _, hkj⟩ := Relation.TransGen.tail'_iff.1 hij
  refine ⟨j, hsent hkj.principal_deleted ?_, hij, hend⟩
  rintro ⟨l, hjl, _⟩
  obtain ⟨k', hjk, _⟩ := Relation.TransGen.head'_iff.1 hjl
  exact hend k' hjk

/-- Nodes of a tree go when their parents do. -/
def tree : Schema := .ofList
  [⟨"Node", "nodes", [], ["Id"], [⟨["ParentId"], "Node", [], .cascade⟩]⟩]

/-- Two nodes that are parents of each other, and a child with its parent. -/
def treeBatch : Vector Entry 4 :=
  #v[((Entry.start "Node" .deleted).assign "Id" (.int 1)).assign "ParentId" (.int 2),
    ((Entry.start "Node" .deleted).assign "Id" (.int 2)).assign "ParentId" (.int 1),
    ((Entry.start "Node" .deleted).assign "Id" (.int 3)).assign "ParentId" (.int 4),
    (Entry.start "Node" .deleted).assign "Id" (.int 4)]

theorem leadsToSent_treeBatch : ofBatch tree treeBatch = .ok ⟨[0, 1, 3], [2]⟩ ∧
    (∃ j ∈ [0, 1, 3], Cascade.LeadsToSent tree treeBatch 2 j) ∧
    (treeBatch.get 0).state = .deleted ∧ (¬ ∃ j, Cascade.LeadsToSent tree treeBatch 0 j) ∧
    (0 : Fin 4) ∈ ([0, 1, 3] : List (Fin 4)) := by
  have hp : ofBatch tree treeBatch = .ok ⟨[0, 1, 3], [2]⟩ := by cbv
  have hchild := (elided_iff_leadsToSent tree treeBatch 2).2 _ hp
  have hring := elided_iff_leadsToSent tree treeBatch 0
  have hnone : ¬ ∃ j, Cascade.LeadsToSent tree treeBatch 0 j := by
    intro h
    have h0 : (0 : Fin 4) ∈ (arrange tree treeBatch).elided := hring.1.2 h
    rw [← (ofBatch_eq_ok hp).1] at h0
    exact absurd h0 (by decide)
  exact ⟨hp, hchild.1.1 (by decide), rfl, hnone, (hring.2 _ hp).2 rfl hnone⟩

end RemoteTable.Plan
