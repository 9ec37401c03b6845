import Mathlib.Order.Bounds.Defs
import RemoteTable.Proofs.Change.Depth

/-!
What the depth of a type measures. Types that lead to each other form components, and the depth is
the greatest number of references from one component to another on any path of references.
-/

namespace RemoteTable.Depths

open Relation (ReflTransGen)

section

variable {n : Nat} {g : Digraph n}

theorem foldl_max_eq (l : List Nat) (k : Nat) : l.foldl max k = k ∨ l.foldl max k ∈ l := by
  induction l generalizing k with
  | nil => exact .inl rfl
  | cons a l ih =>
    rw [List.foldl_cons]
    rcases ih (max k a) with h | h
    · rw [h]
      rcases Nat.le_total k a with hle | hle
      · exact .inr (by simp [Nat.max_eq_right hle])
      · exact .inl (Nat.max_eq_left hle)
    · exact .inr (List.mem_cons_of_mem a h)

/-- A set that is not at depth zero has an edge to a node that is one less deep. -/
theorem exists_edge_of_depthOfSet {known : Vector Nat n} {members : List (Fin n)} {k : Nat}
    (h : depthOfSet g known members = k + 1) :
    ∃ u ∈ members, ∃ w, g.Edge u w ∧ w ∉ members ∧ known.get w = k := by
  unfold depthOfSet at h
  simp only at h
  generalize hl : List.map _ _ = l at h
  rcases foldl_max_eq l 0 with hzero | hmem
  · omega
  · rw [h, ← hl] at hmem
    obtain ⟨w, hw, hk⟩ := List.mem_map.1 hmem
    obtain ⟨hw, hout⟩ := List.mem_filter.1 hw
    obtain ⟨u, hu, he⟩ := List.mem_flatMap.1 hw
    exact ⟨u, hu, w, he, by simpa using hout, by omega⟩

/-- A node that is not at depth zero shares its component with one that has such an edge. -/
theorem exists_edge_of_ofGraph {u : Fin n} {k : Nat} (h : (ofGraph g).get u = k + 1) :
    ∃ x w, g.Reaches u x ∧ g.Reaches x u ∧ g.Edge x w ∧ ¬ g.Reaches w x ∧
      (ofGraph g).get w = k := by
  obtain ⟨c, hc, hu⟩ := exists_component g u
  rw [settledOn_ofGraph g c hc u hu] at h
  obtain ⟨x, hx, w, he, hw, hk⟩ := exists_edge_of_depthOfSet h
  obtain ⟨hux, hxu⟩ := (g.components_settled.strong c hc u hu x).1 hx
  refine ⟨x, w, hux, hxu, he, fun hwx => hw ?_, hk⟩
  exact (g.components_settled.strong c hc x hx w).2 ⟨ReflTransGen.single he, hwx⟩

end

/-- Two types of a list lead to each other, or are one. -/
def Mutual (s : Schema) (types : List String) (t u : String) : Prop :=
  ReflTransGen (Refers s types) t u ∧ ReflTransGen (Refers s types) u t

/-- There is a path of references from a type, on which a number of references lead from one
component to another. -/
inductive Path (s : Schema) (types : List String) : String → Nat → Prop
  | stop (t : String) : Path s types t 0
  | within {t u : String} {k : Nat} (reference : Refers s types t u)
      (together : Mutual s types t u) (rest : Path s types u k) : Path s types t k
  | across {t u : String} {k : Nat} (reference : Refers s types t u)
      (apart : ¬ Mutual s types t u) (rest : Path s types u k) : Path s types t (k + 1)

variable {s : Schema} {types : List String}

/-- A path starts as well from any other type of its component. -/
theorem Path.of_mutual {t u : String} {k : Nat} (h : Mutual s types t u) (hu : Path s types u k) :
    Path s types t k := by
  obtain ⟨htu, hut⟩ := h
  induction htu using ReflTransGen.head_induction_on with
  | refl => exact hu
  | @head t v htv hvu ih =>
    have hvt : ReflTransGen (Refers s types) v t := hvu.trans hut
    exact .within htv ⟨.single htv, hvt⟩ (ih (hut.trans (.single htv)))

/-- No path leads across more often than the depth says. -/
theorem Path.le_depth {t : String} {k : Nat} (h : Path s types t k) :
    k ≤ (ofTypes s types).depth t := by
  induction h with
  | stop t => exact Nat.zero_le _
  | within _ hmutual _ ih => rwa [depth_eq hmutual.1 hmutual.2]
  | across href hapart _ ih =>
    have hlt := depth_lt href fun hback => hapart ⟨.single href, hback⟩
    omega

/-- A type outside the list has depth zero. -/
theorem depth_eq_zero {t : String} (h : t ∉ types) : (ofTypes s types).depth t = 0 := by
  have hlookup : (ofTypes s types).find? t = none := by
    rw [ofTypes, Dict.find?_ofList, List.lookup_eq_none_iff]
    rintro e he
    obtain ⟨i, -, rfl⟩ := List.mem_map.1 (List.mem_reverse.1 he)
    have hi : types.eraseDups.get i ∈ types := List.mem_eraseDups.1 (List.get_mem _ i)
    rw [bne_iff_ne]
    rintro rfl
    exact h hi
  rw [depth, hlookup]
  rfl

/-- A type that is not at depth zero shares its component with one that refers to a type one less
deep. -/
theorem exists_refers_of_depth {t : String} {k : Nat} (h : (ofTypes s types).depth t = k + 1) :
    ∃ u p, Mutual s types t u ∧ Refers s types u p ∧ ¬ Mutual s types u p ∧
      (ofTypes s types).depth p = k := by
  have ht : t ∈ types := by
    by_contra ht
    rw [depth_eq_zero ht] at h
    omega
  obtain ⟨i, rfl⟩ := List.get_of_mem (List.mem_eraseDups.2 ht)
  rw [depth_ofTypes] at h
  obtain ⟨x, w, hix, hxi, he, hwx, hk⟩ := exists_edge_of_ofGraph h
  have hnames := List.nodup_eraseDups types
  rw [reaches_references hnames, refers_eraseDups] at hix hxi hwx
  rw [edge_references hnames, refers_eraseDups] at he
  exact ⟨_, _, ⟨hix, hxi⟩, he, fun hback => hwx hback.2, by rw [depth_ofTypes, hk]⟩

/-- Some path leads across as often as the depth says. -/
theorem path_depth (s : Schema) (types : List String) (t : String) :
    Path s types t ((ofTypes s types).depth t) := by
  generalize hk : (ofTypes s types).depth t = k
  induction k generalizing t with
  | zero => exact .stop t
  | succ k ih =>
    obtain ⟨u, p, htu, hup, hapart, hp⟩ := exists_refers_of_depth hk
    exact .of_mutual htu (.across hup hapart (ih p hp))

/-- The depth of a type is the greatest number of references between components on any path from
it. So it is the same for types that lead to each other, and greater than that of any other type
referred to. -/
theorem depth_isGreatest (s : Schema) (types : List String) :
    (∀ t, IsGreatest {k | Path s types t k} ((ofTypes s types).depth t)) ∧
      (∀ t u, Mutual s types t u → (ofTypes s types).depth t = (ofTypes s types).depth u) ∧
      ∀ d p, Refers s types d p → ¬ Mutual s types d p →
        (ofTypes s types).depth p + 1 ≤ (ofTypes s types).depth d := by
  refine ⟨fun t => ⟨path_depth s types t, fun _ h => h.le_depth⟩, ?_, ?_⟩
  · intro t u h
    exact depth_eq h.1 h.2
  · intro d p h hapart
    exact depth_lt h fun hback => hapart ⟨.single h, hback⟩

end RemoteTable.Depths
