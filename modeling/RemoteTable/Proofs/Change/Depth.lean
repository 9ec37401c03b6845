import Mathlib.Data.List.FinRange
import RemoteTable.Change.Depth
import RemoteTable.Proofs.Distinct
import RemoteTable.Proofs.Graph.Components

/-!
Depths of types: types that refer to each other in a circle have one depth, and any other type is
deeper than the types it refers to.
-/

namespace RemoteTable

open Relation (ReflTransGen)

namespace Depths

section

variable {n : Nat} {g : Digraph n}

theorem le_foldl_max (l : List Nat) (k : Nat) : k ≤ l.foldl max k ∧ ∀ x ∈ l, x ≤ l.foldl max k := by
  induction l generalizing k with
  | nil => simp
  | cons a l ih =>
    obtain ⟨hk, hl⟩ := ih (max k a)
    rw [List.foldl_cons]
    refine ⟨by omega, fun x hx => ?_⟩
    rcases List.mem_cons.1 hx with rfl | hx
    · omega
    · exact hl x hx

theorem get_enter (known : Vector Nat n) (members : List (Fin n)) (v : Fin n) :
    (enter g known members).get v =
      if members.contains v then depthOfSet g known members else known.get v :=
  Vector.getElem_ofFn v.isLt

/-- Only the depths outside a set count for the depth of the set. -/
theorem depthOfSet_congr {known known' : Vector Nat n} {members : List (Fin n)}
    (h : ∀ u ∈ members, ∀ w, g.Edge u w → w ∉ members → known.get w = known'.get w) :
    depthOfSet g known members = depthOfSet g known' members := by
  unfold depthOfSet
  simp only
  congr 1
  refine List.map_congr_left fun w hw => ?_
  obtain ⟨hw, hout⟩ := List.mem_filter.1 hw
  obtain ⟨u, hu, he⟩ := List.mem_flatMap.1 hw
  rw [h u hu w he (by simpa using hout)]

theorem lt_depthOfSet {known : Vector Nat n} {members : List (Fin n)} {u w : Fin n}
    (hu : u ∈ members) (he : g.Edge u w) (hw : w ∉ members) :
    known.get w < depthOfSet g known members := by
  refine (le_foldl_max _ 0).2 (known.get w + 1) (List.mem_map.2 ⟨w, ?_, rfl⟩)
  exact List.mem_filter.2 ⟨List.mem_flatMap.2 ⟨u, hu, he⟩, by simpa using hw⟩

/-- The depths of these sets are settled. -/
def SettledOn (g : Digraph n) (sets : List (List (Fin n))) (known : Vector Nat n) : Prop :=
  ∀ c ∈ sets, ∀ u ∈ c, known.get u = depthOfSet g known c

/-- Entering the next set settles it and changes nothing that was settled, as no earlier set
reaches it. -/
theorem settledOn_enter {sets : List (List (Fin n))} {known : Vector Nat n} {c : List (Fin n)}
    (hearlier : ∀ a ∈ sets, ∀ u ∈ a, ∀ v ∈ c, ¬ g.Reaches u v) (h : SettledOn g sets known) :
    SettledOn g (sets ++ [c]) (enter g known c) := by
  intro a ha u hu
  rcases List.mem_append.1 ha with ha | ha
  · have huc : u ∉ c := fun huc => hearlier a ha u hu u huc .refl
    have hsame : depthOfSet g (enter g known c) a = depthOfSet g known a := by
      refine depthOfSet_congr fun x hx w he _ => ?_
      have hwc : w ∉ c := fun hwc => hearlier a ha x hx w hwc (ReflTransGen.single he)
      simp [get_enter, hwc]
    rw [hsame, ← h a ha u hu]
    simp [get_enter, huc]
  · obtain rfl := List.mem_singleton.1 ha
    have hsame : depthOfSet g (enter g known a) a = depthOfSet g known a :=
      depthOfSet_congr fun x _ w _ hw => by simp [get_enter, hw]
    rw [hsame]
    simp [get_enter, hu]

theorem settledOn_foldl {rest sets : List (List (Fin n))} {known : Vector Nat n}
    (hearlier : (sets ++ rest).Pairwise fun a b => ∀ u ∈ a, ∀ v ∈ b, ¬ g.Reaches u v)
    (h : SettledOn g sets known) : SettledOn g (sets ++ rest) (rest.foldl (enter g) known) := by
  induction rest generalizing sets known with
  | nil => simpa using h
  | cons c rest ih =>
    rw [List.append_cons] at hearlier ⊢
    refine ih hearlier (settledOn_enter (fun a ha => ?_) h)
    exact (List.pairwise_append.1 (List.pairwise_append.1 hearlier).1).2.2 a ha c
      (List.mem_singleton.2 rfl)

/-- The depth of a node is that of its component. -/
theorem settledOn_ofGraph (g : Digraph n) : SettledOn g g.components (ofGraph g) := by
  have hnil : SettledOn g [] (Vector.replicate n 0) := by simp [SettledOn]
  exact settledOn_foldl g.components_settled.earlier hnil

theorem exists_component (g : Digraph n) (u : Fin n) : ∃ c ∈ g.components, u ∈ c :=
  List.mem_flatten.1 ((g.components_perm.mem_iff).2 (List.mem_finRange u))

theorem ofGraph_eq {u v : Fin n} (huv : g.Reaches u v) (hvu : g.Reaches v u) :
    (ofGraph g).get u = (ofGraph g).get v := by
  obtain ⟨c, hc, hu⟩ := exists_component g u
  have hv : v ∈ c := (g.components_settled.strong c hc u hu v).2 ⟨huv, hvu⟩
  rw [settledOn_ofGraph g c hc u hu, settledOn_ofGraph g c hc v hv]

theorem ofGraph_lt {u w : Fin n} (he : g.Edge u w) (hwu : ¬ g.Reaches w u) :
    (ofGraph g).get w < (ofGraph g).get u := by
  obtain ⟨c, hc, hu⟩ := exists_component g u
  have hw : w ∉ c := fun hw => hwu ((g.components_settled.strong c hc u hu w).1 hw).2
  rw [settledOn_ofGraph g c hc u hu]
  exact lt_depthOfSet hu he hw

end

/-- One type of a list refers to another one of it. -/
def Refers (s : Schema) (types : List String) (d p : String) : Prop :=
  d ∈ types ∧ p ∈ types ∧ d ≠ p ∧ ∃ m, s.get? d = some m ∧ ∃ k ∈ m.foreignKeys, k.principal = p

section

variable {s : Schema} {names : List String}

theorem edge_references (hnames : names.Nodup) (i j : Fin names.length) :
    (references s names).Edge i j ↔ Refers s names (names.get i) (names.get j) := by
  have hget : (references s names).get i = principals s names (names.get i) :=
    Vector.getElem_ofFn i.isLt
  unfold Digraph.Edge Refers
  rw [hget, principals]
  cases hm : s.get? (names.get i) with
  | none => simp
  | some m =>
    simp only [List.mem_filterMap, List.mem_filter, bne_iff_ne, List.get_mem, true_and,
      Option.some.injEq, exists_eq_left']
    constructor
    · rintro ⟨k, ⟨hk, hne⟩, hj⟩
      have hkj : names.get j = k.principal := (List.finIdxOf?_eq_some_iff.1 hj).1
      rw [← hkj] at hne
      exact ⟨Ne.symm hne, k, hk, hkj.symm⟩
    · rintro ⟨hne, k, hk, hkj⟩
      refine ⟨k, ⟨hk, hkj ▸ Ne.symm hne⟩, List.finIdxOf?_eq_some_iff.2 ⟨hkj.symm, ?_⟩⟩
      intro i' hi' he
      have hij : i'.val = j.val := (hnames.getElem_inj_iff).1 (he.trans hkj)
      exact absurd hi' (by rw [Fin.ext hij]; exact Nat.lt_irrefl _)

theorem reaches_references (hnames : names.Nodup) {i j : Fin names.length} :
    (references s names).Reaches i j ↔
      ReflTransGen (Refers s names) (names.get i) (names.get j) := by
  constructor
  · intro h
    exact h.lift names.get fun a b he => (edge_references hnames a b).1 he
  · intro h
    generalize hp : names.get j = p at h
    induction h generalizing j with
    | refl =>
      have hij : i = j := Fin.ext ((hnames.getElem_inj_iff).1 hp.symm)
      exact hij ▸ .refl
    | tail _ hq ih =>
      obtain ⟨q, hq'⟩ := List.get_of_mem hq.1
      refine (ih hq').tail ((edge_references hnames q j).2 ?_)
      rw [hq', hp]
      exact hq

/-- The depth of a type is that of its node. -/
theorem depth_ofTypes (s : Schema) (types : List String) (i : Fin types.eraseDups.length) :
    (ofTypes s types).depth (types.eraseDups.get i) =
      (ofGraph (references s types.eraseDups)).get i := by
  have hmem : (types.eraseDups.get i, (ofGraph (references s types.eraseDups)).get i) ∈
      (List.finRange types.eraseDups.length).map
        (fun i => (types.eraseDups.get i, (ofGraph (references s types.eraseDups)).get i)) :=
    List.mem_map.2 ⟨i, List.mem_finRange i, rfl⟩
  have hkeys : (((List.finRange types.eraseDups.length).map
      (fun i => (types.eraseDups.get i, (ofGraph (references s types.eraseDups)).get i))).map
        Prod.fst).Nodup := by
    rw [List.map_map]
    show ((List.finRange types.eraseDups.length).map types.eraseDups.get).Nodup
    rw [List.map_get_finRange]
    exact List.nodup_eraseDups types
  unfold depth ofTypes
  simp only
  rw [Dict.find?_ofList_of_nodup hkeys hmem]
  rfl

theorem refers_eraseDups (types : List String) :
    Refers s types.eraseDups = Refers s types := by
  funext d p
  simp [Refers, List.mem_eraseDups]

end

section

variable {s : Schema} {types : List String} {d p : String}

/-- Types that refer to each other in a circle have one depth. -/
theorem depth_eq (hdp : ReflTransGen (Refers s types) d p)
    (hpd : ReflTransGen (Refers s types) p d) :
    (ofTypes s types).depth d = (ofTypes s types).depth p := by
  rcases hdp.cases_head with rfl | ⟨q, hq, _⟩
  · rfl
  rcases hpd.cases_head with rfl | ⟨r, hr, _⟩
  · rfl
  obtain ⟨i, rfl⟩ := List.get_of_mem (List.mem_eraseDups.2 hq.1)
  obtain ⟨j, rfl⟩ := List.get_of_mem (List.mem_eraseDups.2 hr.1)
  rw [← refers_eraseDups, ← reaches_references (List.nodup_eraseDups types)] at hdp hpd
  rw [depth_ofTypes, depth_ofTypes]
  exact ofGraph_eq hdp hpd

/-- A type is deeper than any type that it refers to, unless that one leads back to it. -/
theorem depth_lt (h : Refers s types d p) (hpd : ¬ ReflTransGen (Refers s types) p d) :
    (ofTypes s types).depth p < (ofTypes s types).depth d := by
  obtain ⟨i, rfl⟩ := List.get_of_mem (List.mem_eraseDups.2 h.1)
  obtain ⟨j, rfl⟩ := List.get_of_mem (List.mem_eraseDups.2 h.2.1)
  rw [← refers_eraseDups, ← reaches_references (List.nodup_eraseDups types)] at hpd
  rw [← refers_eraseDups, ← edge_references (List.nodup_eraseDups types)] at h
  rw [depth_ofTypes, depth_ofTypes]
  exact ofGraph_lt h hpd

end

end Depths

end RemoteTable
