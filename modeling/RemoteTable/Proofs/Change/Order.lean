import Mathlib
import RemoteTable.Change.Plan
import RemoteTable.Proofs.Change.Depth
import RemoteTable.Proofs.Outcome

/-!
The order of a dispatch plan. Every entry of a batch is either sent once or left to the store, and
what is sent goes out phase by phase, principals before their dependents, and otherwise in the
order of the batch.
-/

namespace RemoteTable.Plan

open Relation (ReflTransGen)

variable {n : Nat}

/-- The plan sends `i` before `j`. -/
def Precedes (p : Plan n) (i j : Fin n) : Prop := [i, j].Sublist p.order

/-- One type of a batch refers to another one of it. -/
def Refers (s : Schema) (entries : Vector Entry n) (d p : String) : Prop :=
  Depths.Refers s (entries.toList.map Entry.entity) d p

/-- Two types of a batch are the same or lie on a common circle of references. -/
def Level (s : Schema) (entries : Vector Entry n) (a b : String) : Prop :=
  a = b ∨ ReflTransGen (Refers s entries) a b ∧ ReflTransGen (Refers s entries) b a

/-- Inserts go out before updates, and both before deletes. -/
def GoesBefore (a b : ChangeState) : Prop :=
  a = .added ∧ (b = .modified ∨ b = .deleted) ∨ a = .modified ∧ b = .deleted

/-- What the order of a plan promises. -/
structure Sound (s : Schema) (entries : Vector Entry n) (p : Plan n) : Prop where
  /-- Every position is in the plan once. -/
  complete : (p.order ++ p.elided).Perm (List.finRange n)
  elided_deleted : ∀ i ∈ p.elided, (entries.get i).state = .deleted
  phases : ∀ i ∈ p.order, ∀ j ∈ p.order,
    GoesBefore (entries.get i).state (entries.get j).state → p.Precedes i j
  /-- Principals go before dependents that they do not lead back to. -/
  principals : ∀ i ∈ p.order, ∀ j ∈ p.order, (entries.get i).state = (entries.get j).state →
    (entries.get i).state ≠ .modified →
    Refers s entries (entries.get j).entity (entries.get i).entity →
    ¬ ReflTransGen (Refers s entries) (entries.get i).entity (entries.get j).entity →
    p.Precedes i j
  /-- Updates keep the order of the batch, and so do inserts and deletes of types on one level. -/
  stable : ∀ i ∈ p.order, ∀ j ∈ p.order, i < j → (entries.get i).state = (entries.get j).state →
    (entries.get i).state = .modified ∨
      Level s entries (entries.get i).entity (entries.get j).entity →
    p.Precedes i j

/-- A batch is planned only if every entry of it can be planned, and then in one way. -/
theorem ofBatch_eq_ok {s : Schema} {entries : Vector Entry n} {p : Plan n}
    (h : ofBatch s entries = .ok p) : p = arrange s entries ∧ ∀ i, check s entries i = .ok () := by
  unfold ofBatch at h
  obtain ⟨u, hc, hp⟩ := Except.bind_eq_ok.1 h
  exact ⟨(Except.ok.inj hp).symm, fun i => Except.forM_eq_ok hc i (List.mem_finRange i)⟩

theorem state_of_check {s : Schema} {entries : Vector Entry n} {i : Fin n}
    (h : check s entries i = .ok ()) :
    (entries.get i).state = .added ∨ (entries.get i).state = .modified ∨
      (entries.get i).state = .deleted := by
  unfold check at h
  simp only at h
  split at h
  · simp at h
  · cases hs : (entries.get i).state <;> simp [hs] at h ⊢

theorem mem_positions {entries : Vector Entry n} {state : ChangeState} {i : Fin n} :
    i ∈ positions entries state ↔ (entries.get i).state = state := by
  simp [positions]

/-- Of two members of a list in order, the one that cannot come second comes first. -/
theorem pair_sublist_of_pairwise {α : Type} {R : α → α → Prop} {l : List α} (h : l.Pairwise R)
    {a b : α} (ha : a ∈ l) (hb : b ∈ l) (hne : a ≠ b) (hba : ¬ R b a) : [a, b].Sublist l := by
  induction l with
  | nil => exact absurd ha List.not_mem_nil
  | cons x l ih =>
    obtain ⟨hx, hl⟩ := List.pairwise_cons.1 h
    rcases List.mem_cons.1 ha with rfl | hal
    · have hbl : b ∈ l := (List.mem_cons.1 hb).resolve_left (Ne.symm hne)
      exact (List.singleton_sublist.2 hbl).cons_cons a
    rcases List.mem_cons.1 hb with rfl | hbl
    · exact absurd (hx a hal) hba
    · exact (ih hl hal hbl).cons x

theorem pair_sublist_positions {entries : Vector Entry n} {state : ChangeState} {i j : Fin n}
    (hij : i < j) (hi : (entries.get i).state = state) (hj : (entries.get j).state = state) :
    [i, j].Sublist (positions entries state) := by
  have h : [i, j].Sublist (List.finRange n) := by
    refine pair_sublist_of_pairwise (List.pairwise_lt_finRange n) (List.mem_finRange i)
      (List.mem_finRange j) (Fin.ne_of_lt hij) (Fin.lt_asymm hij)
  simpa [positions, hi, hj] using h.filter (fun k => (entries.get k).state == state)

section

variable {d : Depths} {entries : Vector Entry n} {l : List (Fin n)} {i j : Fin n}

theorem depth_le_trans (i j k : Fin n)
    (hij : decide (d.depth (entries.get i).entity ≤ d.depth (entries.get j).entity) = true)
    (hjk : decide (d.depth (entries.get j).entity ≤ d.depth (entries.get k).entity) = true) :
    decide (d.depth (entries.get i).entity ≤ d.depth (entries.get k).entity) = true :=
  decide_eq_true (Nat.le_trans (of_decide_eq_true hij) (of_decide_eq_true hjk))

theorem depth_le_total (i j : Fin n) :
    (decide (d.depth (entries.get i).entity ≤ d.depth (entries.get j).entity) ||
      decide (d.depth (entries.get j).entity ≤ d.depth (entries.get i).entity)) = true := by
  simpa using Nat.le_total _ _

theorem byDepth_perm : (byDepth d entries l).Perm l := List.mergeSort_perm _ _

theorem mem_byDepth : i ∈ byDepth d entries l ↔ i ∈ l := byDepth_perm.mem_iff

theorem byDepth_pairwise : (byDepth d entries l).Pairwise fun i j =>
    d.depth (entries.get i).entity ≤ d.depth (entries.get j).entity :=
  (List.pairwise_mergeSort depth_le_trans depth_le_total l).imp of_decide_eq_true

/-- A type that is less deep goes first. -/
theorem pair_sublist_byDepth_of_lt (hi : i ∈ l) (hj : j ∈ l)
    (hlt : d.depth (entries.get i).entity < d.depth (entries.get j).entity) :
    [i, j].Sublist (byDepth d entries l) := by
  refine pair_sublist_of_pairwise byDepth_pairwise (mem_byDepth.2 hi) (mem_byDepth.2 hj) ?_ ?_
  · rintro rfl
    exact Nat.lt_irrefl _ hlt
  · exact Nat.not_le.2 hlt

/-- Entries of one depth keep their order. -/
theorem pair_sublist_byDepth_of_eq (hij : [i, j].Sublist l)
    (heq : d.depth (entries.get i).entity = d.depth (entries.get j).entity) :
    [i, j].Sublist (byDepth d entries l) := by
  refine List.pair_sublist_mergeSort depth_le_trans depth_le_total ?_ hij
  exact decide_eq_true (Nat.le_of_eq heq)

end

section

variable {s : Schema} {entries : Vector Entry n} {i j : Fin n}

/-- The depth of the type of an entry among the types of its batch. -/
def depthOf (s : Schema) (entries : Vector Entry n) (i : Fin n) : Nat :=
  (Depths.ofTypes s (entries.toList.map Entry.entity)).depth (entries.get i).entity

theorem depthOf_eq_of_level (h : Level s entries (entries.get i).entity (entries.get j).entity) :
    depthOf s entries i = depthOf s entries j := by
  unfold depthOf
  rcases h with h | ⟨hij, hji⟩
  · rw [h]
  · exact Depths.depth_eq hij hji

/-- The deletes that are sent. -/
def deletes (s : Schema) (entries : Vector Entry n) : List (Fin n) :=
  (positions entries .deleted).filter fun i => !(Cascade.elided s entries).contains i

theorem mem_deletes :
    i ∈ deletes s entries ↔ (entries.get i).state = .deleted ∧ i ∉ Cascade.elided s entries := by
  simp [deletes, mem_positions]

theorem deleted_of_elided (h : i ∈ Cascade.elided s entries) :
    (entries.get i).state = .deleted := by
  simp only [Cascade.elided, List.mem_filter, Bool.and_eq_true] at h
  simpa [Cascade.isDelete] using h.2.1.1

theorem order_arrange (s : Schema) (entries : Vector Entry n) :
    (arrange s entries).order =
      byDepth (Depths.ofTypes s (entries.toList.map Entry.entity)) entries (positions entries .added) ++
        positions entries .modified ++
        byDepth (Depths.ofTypes s (entries.toList.map Entry.entity)) entries (deletes s entries) :=
  rfl

theorem mem_order : i ∈ (arrange s entries).order ↔
    (entries.get i).state = .added ∨ (entries.get i).state = .modified ∨ i ∈ deletes s entries := by
  simp only [order_arrange, List.mem_append, mem_byDepth, mem_positions, or_assoc]

theorem nodup_positions (entries : Vector Entry n) (state : ChangeState) :
    (positions entries state).Nodup :=
  (List.nodup_finRange n).filter _

/-- Every position is sent or left to the store, if it can be planned at all. -/
theorem arrange_perm (hcheck : ∀ i, check s entries i = .ok ()) :
    ((arrange s entries).order ++ (arrange s entries).elided).Perm (List.finRange n) := by
  have hdeletes : (deletes s entries).Nodup := (nodup_positions entries .deleted).filter _
  have helided : (Cascade.elided s entries).Nodup := (List.nodup_finRange n).filter _
  have hnodup : ((arrange s entries).order ++ (arrange s entries).elided).Nodup := by
    rw [order_arrange]
    refine (((byDepth_perm.nodup_iff.2 (nodup_positions entries .added)).append
      (nodup_positions entries .modified) ?_).append
        (byDepth_perm.nodup_iff.2 hdeletes) ?_).append helided ?_
    · intro i hi hj
      simp [mem_byDepth, mem_positions] at hi hj
      simp [hi] at hj
    · intro i hi hj
      have hd := (mem_deletes.1 (mem_byDepth.1 hj)).1
      simp [mem_byDepth, mem_positions, hd] at hi
    · intro i hi he
      have hd := deleted_of_elided he
      simp [mem_byDepth, mem_positions, mem_deletes, hd] at hi
      exact hi he
  refine (List.perm_ext_iff_of_nodup hnodup (List.nodup_finRange n)).2 fun i => ?_
  refine ⟨fun _ => List.mem_finRange i, fun _ => List.mem_append.2 ?_⟩
  by_cases he : i ∈ Cascade.elided s entries
  · exact .inr he
  · refine .inl (mem_order.2 ?_)
    rcases state_of_check (hcheck i) with h | h | h
    · exact .inl h
    · exact .inr (.inl h)
    · exact .inr (.inr (mem_deletes.2 ⟨h, he⟩))

theorem pair_sublist_append {α : Type} {l l' : List α} {a b : α} (ha : a ∈ l) (hb : b ∈ l') :
    [a, b].Sublist (l ++ l') :=
  (List.singleton_sublist.2 ha).append (List.singleton_sublist.2 hb)

theorem arrange_phases (hj : j ∈ (arrange s entries).order)
    (h : GoesBefore (entries.get i).state (entries.get j).state) :
    (arrange s entries).Precedes i j := by
  unfold Precedes
  rw [order_arrange]
  rw [mem_order] at hj
  rcases h with ⟨hi', hj' | hj'⟩ | ⟨hi', hj'⟩
  · refine (pair_sublist_append ?_ ?_).trans (List.sublist_append_left _ _)
    · simp [mem_byDepth, mem_positions, hi']
    · simp [mem_positions, hj']
  all_goals
    refine pair_sublist_append ?_ ?_
    · simp [mem_byDepth, mem_positions, hi']
    · simpa [mem_byDepth, hj'] using hj

/-- Entries of one state whose order is that of their depths, or that of the batch. -/
theorem arrange_state (hi : i ∈ (arrange s entries).order) (hj : j ∈ (arrange s entries).order)
    (hstate : (entries.get i).state = (entries.get j).state)
    (h : depthOf s entries i < depthOf s entries j ∧ (entries.get i).state ≠ .modified ∨
      i < j ∧ ((entries.get i).state = .modified ∨ depthOf s entries i = depthOf s entries j)) :
    (arrange s entries).Precedes i j := by
  unfold Precedes
  rw [order_arrange]
  rw [mem_order, hstate] at hi
  rw [mem_order] at hj
  rcases hj with hadded | hmodified | hdeleted
  · refine .trans ?_ ((List.sublist_append_left _ _).trans (List.sublist_append_left _ _))
    rw [hadded] at hstate
    rcases h with ⟨hlt, _⟩ | ⟨hij, hmod | heq⟩
    · exact pair_sublist_byDepth_of_lt (mem_positions.2 hstate) (mem_positions.2 hadded) hlt
    · simp [hmod] at hstate
    · exact pair_sublist_byDepth_of_eq (pair_sublist_positions hij hstate hadded) heq
  · refine .trans ?_ ((List.sublist_append_right _ _).trans (List.sublist_append_left _ _))
    rw [hmodified] at hstate
    rcases h with ⟨_, hmod⟩ | ⟨hij, _⟩
    · exact absurd hstate hmod
    · exact pair_sublist_positions hij hstate hmodified
  · refine .trans ?_ (List.sublist_append_right _ _)
    obtain ⟨hj', hje⟩ := mem_deletes.1 hdeleted
    rw [hj'] at hstate
    have hideleted : i ∈ deletes s entries := by simpa [hj'] using hi
    rcases h with ⟨hlt, _⟩ | ⟨hij, hmod | heq⟩
    · exact pair_sublist_byDepth_of_lt hideleted hdeleted hlt
    · simp [hmod] at hstate
    · refine pair_sublist_byDepth_of_eq ?_ heq
      have hsub := (pair_sublist_positions hij hstate hj').filter
        fun k => !(Cascade.elided s entries).contains k
      simpa [deletes, hje, (mem_deletes.1 hideleted).2] using hsub

/-- The plan of every batch that is accepted is complete and in order. -/
theorem ofBatch_sound {p : Plan n} (h : ofBatch s entries = .ok p) : Sound s entries p := by
  obtain ⟨rfl, hcheck⟩ := ofBatch_eq_ok h
  constructor
  · exact arrange_perm hcheck
  · exact fun i hi => deleted_of_elided hi
  · exact fun i _ j hj => arrange_phases hj
  · intro i hi j hj hstate hmod hrefers hback
    exact arrange_state hi hj hstate (.inl ⟨Depths.depth_lt hrefers hback, hmod⟩)
  · intro i hi j hj hij hstate hlevel
    refine arrange_state hi hj hstate (.inr ⟨hij, ?_⟩)
    exact hlevel.imp_right depthOf_eq_of_level

end

/-- Orders belong to customers and go when they do. -/
def shop : Schema := .ofList
  [⟨"Customer", "customers", [], ["Id"], []⟩,
    ⟨"Order", "orders", [], ["Id"], [⟨["CustomerId"], "Customer", [], .cascade⟩]⟩]

/-- A batch out of order, in which the deleted order belongs to the deleted customer. -/
def shopBatch : Vector Entry 5 :=
  #v[.start "Order" .added, (Entry.start "Order" .deleted).assign "CustomerId" (.int 1),
    .start "Customer" .added, .start "Customer" .modified,
    (Entry.start "Customer" .deleted).assign "Id" (.int 1)]

theorem sound_shopBatch : ofBatch shop shopBatch = .ok ⟨[2, 0, 3, 4], [1]⟩ ∧
    Sound shop shopBatch ⟨[2, 0, 3, 4], [1]⟩ := by
  have h : ofBatch shop shopBatch = .ok ⟨[2, 0, 3, 4], [1]⟩ := by cbv
  exact ⟨h, ofBatch_sound h⟩

end RemoteTable.Plan
