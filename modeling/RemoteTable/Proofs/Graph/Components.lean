import RemoteTable.Proofs.Graph.Search

/-!
The components of a graph are its sets of mutually reachable nodes. A visit leaves behind the
search it started from, with more nodes met, and its link is the number of a node that was on the
stack before, or the next number if the visit reached none of those.
-/

namespace RemoteTable.Digraph

variable {n : Nat}

namespace Search

/-- A link found for `v`: the number of a node on the stack that `v` reaches, or the next number. -/
def Link (g : Digraph n) (s : Search n) (v : Fin n) (low : Nat) : Prop :=
  low = s.next ∨ ∃ y ∈ s.stack, s.rank y = low ∧ g.Reaches v y

/-- A node is met, some of its successors are `done`, and `low` is its link so far. -/
structure Scanned (g : Digraph n) (path : List (Fin n)) (s : Search n) (v : Fin n)
    (done : List (Fin n)) (r : Nat × Search n) : Prop where
  valid : r.2.Valid g (v :: path)
  grows : (s.meet v).Grows r.2
  above : ∃ t, r.2.stack = t ++ v :: s.stack ∧ (∀ u ∈ t, s.next < r.2.rank u) ∧
    ∀ u ∈ t, ∀ w ∈ s.stack, g.Edge u w → r.1 ≤ s.rank w
  done : ∀ w ∈ done, r.2.Met w ∧ (w ∈ s.stack → r.1 ≤ s.rank w)
  link : Link g s v r.1

/-- What a visit of `v` makes of a search. -/
structure Visited (g : Digraph n) (path : List (Fin n)) (s : Search n) (v : Fin n)
    (r : Nat × Search n) : Prop where
  valid : r.2.Valid g path
  grows : s.Grows r.2
  met : r.2.Met v
  above : ∃ t, r.2.stack = t ++ s.stack ∧ (∀ u ∈ t, s.next ≤ r.2.rank u) ∧
    ∀ u ∈ t, ∀ w ∈ s.stack, g.Edge u w → r.1 ≤ s.rank w
  link : Link g s v r.1

section

variable {g : Digraph n} {path : List (Fin n)} {s : Search n} {v : Fin n}

theorem Link.le {low : Nat} (h : Link g s v low) (hs : s.Valid g path) : low ≤ s.next := by
  rcases h with rfl | ⟨y, hy, rfl, _⟩
  · exact Nat.le_refl _
  · exact Nat.le_of_lt (hs.below y hy)

theorem scanned_meet (hs : s.Valid g path) (hv : ¬ s.Met v)
    (hpath : ∀ u ∈ path, g.Reaches u v) : Scanned g path s v [] (s.next, s.meet v) where
  valid := hs.meet hv hpath
  grows := .refl _
  above := ⟨[], rfl, by simp, by simp⟩
  done := by simp
  link := .inl rfl

/-- Lowering a link to a number which, if it is low enough, belongs to a node that `v` reaches. -/
theorem Link.min {low k : Nat} (h : Link g s v low) (hs : s.Valid g path)
    (hk : k < s.next → ∃ y ∈ s.stack, s.rank y = k ∧ g.Reaches v y) :
    Link g s v (min low k) := by
  have hlow := h.le hs
  rcases Nat.lt_or_ge k low with hlt | hge
  · rw [Nat.min_eq_right (Nat.le_of_lt hlt)]
    exact .inr (hk (by omega))
  · rw [Nat.min_eq_left hge]
    exact h

section

variable {done : List (Fin n)} {a : Nat × Search n}

theorem Scanned.grows_start (h : Scanned g path s v done a) (hv : ¬ s.Met v) : s.Grows a.2 :=
  (grows_meet hv).trans h.grows

theorem Scanned.rank_old (h : Scanned g path s v done a) (hs : s.Valid g path) (hv : ¬ s.Met v)
    {u : Fin n} (hu : u ∈ s.stack) : a.2.rank u = s.rank u :=
  (h.grows_start hv).rank (hs.met_of_stack hu)

theorem Scanned.index_self (h : Scanned g path s v done a) : a.2.index.get v = some s.next := by
  rw [h.grows.index v ((met_meet s v v).2 (.inl rfl)), index_meet, if_pos rfl]

theorem Scanned.rank_self (h : Scanned g path s v done a) : a.2.rank v = s.next := by
  simp [rank, h.index_self]

theorem Scanned.mem_stack (h : Scanned g path s v done a) : v ∈ a.2.stack := by
  obtain ⟨t, hstack, _⟩ := h.above
  simp [hstack]

/-- Only the nodes that were on the stack before have numbers below that of `v`. -/
theorem Scanned.mem_old (h : Scanned g path s v done a) {u : Fin n} (hu : u ∈ a.2.stack)
    (hlt : a.2.rank u < s.next) : u ∈ s.stack := by
  obtain ⟨t, hstack, habove, _⟩ := h.above
  rw [hstack] at hu
  rcases List.mem_append.1 hu with hut | hu
  · have := habove u hut
    omega
  rcases List.mem_cons.1 hu with rfl | hu
  · have := h.rank_self
    omega
  · exact hu

/-- The visit of a successor that has not been met. -/
theorem Scanned.visited {b : Nat × Search n} {w : Fin n} (hs : s.Valid g path) (hv : ¬ s.Met v)
    (h : Scanned g path s v done a) (he : g.Edge v w) (hw : ¬ a.2.Met w)
    (hb : Visited g (v :: path) a.2 w b) :
    Scanned g path s v (done ++ [w]) (min a.1 b.1, b.2) := by
  have hnext : s.next < a.2.next := h.grows.next
  obtain ⟨t, hstack, habove, hedge⟩ := h.above
  obtain ⟨t', hstack', habove', hedge'⟩ := hb.above
  have hmem : ∀ u ∈ s.stack, u ∈ a.2.stack := by
    intro u hu
    simp [hstack, hu]
  constructor
  · exact hb.valid
  · exact h.grows.trans hb.grows
  · refine ⟨t' ++ t, by simp [hstack', hstack], fun u hu => ?_, fun u hu y hy hue => ?_⟩
    · rcases List.mem_append.1 hu with hu | hu
      · exact Nat.lt_of_lt_of_le hnext (habove' u hu)
      · rw [hb.grows.rank (h.valid.met_of_stack (by simp [hstack, hu]))]
        exact habove u hu
    · rcases List.mem_append.1 hu with hu | hu
      · have hle := hedge' u hu y (hmem y hy) hue
        rw [h.rank_old hs hv hy] at hle
        exact Nat.le_trans (Nat.min_le_right _ _) hle
      · exact Nat.le_trans (Nat.min_le_left _ _) (hedge u hu y hy hue)
  · intro y hy
    rcases List.mem_append.1 hy with hy | hy
    · obtain ⟨hmet, hle⟩ := h.done y hy
      exact ⟨hb.grows.met hmet, fun hys => Nat.le_trans (Nat.min_le_left _ _) (hle hys)⟩
    · obtain rfl := List.mem_singleton.1 hy
      exact ⟨hb.met, fun hys => absurd ((h.grows_start hv).met (hs.met_of_stack hys)) hw⟩
  · refine h.link.min hs fun hlt => ?_
    rcases hb.link with hnew | ⟨y, hy, hyr, hreach⟩
    · omega
    have hys : y ∈ s.stack := h.mem_old hy (by omega)
    refine ⟨y, hys, ?_, (Relation.ReflTransGen.single he).trans hreach⟩
    rw [← hyr, h.rank_old hs hv hys]

/-- A successor that is on the stack. -/
theorem Scanned.lowered {w : Fin n} {i : Nat} (hs : s.Valid g path) (hv : ¬ s.Met v)
    (h : Scanned g path s v done a) (he : g.Edge v w) (hi : a.2.index.get w = some i)
    (hw : w ∈ a.2.stack) : Scanned g path s v (done ++ [w]) (min a.1 i, a.2) := by
  have hwi : a.2.rank w = i := by simp [rank, hi]
  obtain ⟨t, hstack, habove, hedge⟩ := h.above
  constructor
  · exact h.valid
  · exact h.grows
  · exact ⟨t, hstack, habove, fun u hu y hy hue =>
      Nat.le_trans (Nat.min_le_left _ _) (hedge u hu y hy hue)⟩
  · intro y hy
    rcases List.mem_append.1 hy with hy | hy
    · obtain ⟨hmet, hle⟩ := h.done y hy
      exact ⟨hmet, fun hys => Nat.le_trans (Nat.min_le_left _ _) (hle hys)⟩
    · obtain rfl := List.mem_singleton.1 hy
      refine ⟨by simp [Met, hi], fun hys => ?_⟩
      rw [← h.rank_old hs hv hys, hwi]
      exact Nat.min_le_right _ _
  · refine h.link.min hs fun hlt => ?_
    have hws : w ∈ s.stack := h.mem_old hw (by omega)
    exact ⟨w, hws, by rw [← h.rank_old hs hv hws, hwi], Relation.ReflTransGen.single he⟩

/-- A successor whose set is complete. -/
theorem Scanned.passed {w : Fin n} (h : Scanned g path s v done a) (hmet : a.2.Met w)
    (hw : w ∉ a.2.stack) :
    Scanned g path s v (done ++ [w]) a := by
  obtain ⟨t, hstack, _⟩ := h.above
  refine ⟨h.valid, h.grows, h.above, fun y hy => ?_, h.link⟩
  rcases List.mem_append.1 hy with hy | hy
  · exact h.done y hy
  · obtain rfl := List.mem_singleton.1 hy
    exact ⟨hmet, fun hys => absurd (by simp [hstack, hys]) hw⟩

/-- What visits to nodes outside a longer path have to do. -/
def Visits (g : Digraph n) (visit : Search n → Fin n → Nat × Search n) (fuel : Nat) : Prop :=
  ∀ path s v, s.Valid g path → ¬ s.Met v → (∀ u ∈ path, g.Reaches u v) →
    n ≤ fuel + path.length → Visited g path s v (visit s v)

/-- What leads to a node leads to its successors. -/
theorem reaches_successor {w : Fin n} (hpath : ∀ u ∈ path, g.Reaches u v) (he : g.Edge v w) :
    ∀ u ∈ v :: path, g.Reaches u w := by
  intro u hu
  have huv : g.Reaches u v := by
    rcases List.mem_cons.1 hu with rfl | hu
    · exact .refl
    · exact hpath u hu
  exact huv.trans (Relation.ReflTransGen.single he)

theorem Scanned.follow {visit : Search n → Fin n → Nat × Search n} {fuel : Nat} {w : Fin n}
    (hvisit : Visits g visit fuel) (hs : s.Valid g path) (hv : ¬ s.Met v)
    (hpath : ∀ u ∈ path, g.Reaches u v) (hfuel : n ≤ fuel + 1 + path.length)
    (h : Scanned g path s v done a) (he : g.Edge v w) :
    Scanned g path s v (done ++ [w]) (follow visit a w) := by
  unfold Digraph.follow
  cases hi : a.2.index.get w with
  | none =>
    have hw : ¬ a.2.Met w := by simp [Met, hi]
    refine h.visited hs hv he hw
      (hvisit (v :: path) a.2 w h.valid hw (reaches_successor hpath he) ?_)
    rw [List.length_cons]
    omega
  | some i =>
    by_cases hw : w ∈ a.2.stack
    · simpa [hw] using h.lowered hs hv he hi hw
    · simpa [hw] using h.passed (by simp [Met, hi]) hw

/-- The successors of a node, one after another. -/
theorem Scanned.foldl {visit : Search n → Fin n → Nat × Search n} {fuel : Nat}
    (hvisit : Visits g visit fuel) (hs : s.Valid g path) (hv : ¬ s.Met v)
    (hpath : ∀ u ∈ path, g.Reaches u v) (hfuel : n ≤ fuel + 1 + path.length)
    (rest : List (Fin n)) (hrest : ∀ w ∈ rest, g.Edge v w) (h : Scanned g path s v done a) :
    Scanned g path s v (done ++ rest) (rest.foldl (Digraph.follow visit) a) := by
  induction rest generalizing done a with
  | nil => simpa using h
  | cons w rest ih =>
    have hw := h.follow hvisit hs hv hpath hfuel (hrest w List.mem_cons_self)
    simpa using ih (fun y hy => hrest y (List.mem_cons_of_mem _ hy)) hw

end

theorem close_of_stack {t rest : List (Fin n)} (hstack : s.stack = t ++ v :: rest) (hv : v ∉ t) :
    s.close v = ⟨s.index, s.next, rest, s.components ++ [t ++ [v]]⟩ := by
  have hne : ∀ w ∈ t, (w != v) = true := by
    intro w hw
    exact bne_iff_ne.2 (fun h => hv (h ▸ hw))
  simp [close, hstack, List.takeWhile_append_of_pos hne, List.dropWhile_append_of_pos hne]

section

variable {r : Nat × Search n} {t : List (Fin n)}

/-- Nothing that was met after `v` is under visit. -/
theorem Scanned.not_path {done : List (Fin n)} (hs : s.Valid g path) (hv : ¬ s.Met v)
    (h : Scanned g path s v done r) {u : Fin n} (hu : s.next < r.2.rank u) : u ∉ v :: path := by
  intro hm
  rcases List.mem_cons.1 hm with rfl | hm
  · have := h.rank_self
    omega
  · have hus := hs.path_subset u hm
    have := hs.below u hus
    rw [h.rank_old hs hv hus] at hu
    omega

/-- When the successors of `v` are done, an edge from the stack down to `v` leads there as well, or
to a complete set, or to an older node that the link is not above. -/
theorem Scanned.edge (hs : s.Valid g path) (hv : ¬ s.Met v) (h : Scanned g path s v (g.get v) r)
    (hstack : r.2.stack = t ++ v :: s.stack) {u w : Fin n} (hu : u ∈ t ++ [v]) (he : g.Edge u w) :
    w ∈ t ++ [v] ∨ w ∈ r.2.components.flatten ∨ w ∈ s.stack ∧ r.1 ≤ s.rank w := by
  obtain ⟨t', hstack', habove, hedge⟩ := h.above
  obtain rfl : t = t' := List.append_cancel_right (hstack.symm.trans hstack')
  have hmet : r.2.Met w ∧ (w ∈ s.stack → r.1 ≤ s.rank w) := by
    rcases List.mem_append.1 hu with hu | hu
    · have hpath := h.not_path hs hv (habove u hu)
      exact ⟨h.valid.finished u (by simp [hstack, hu]) hpath w he, fun hw => hedge u hu w hw he⟩
    · obtain rfl := List.mem_singleton.1 hu
      exact h.done w he
  rcases (h.valid.met_iff w).1 hmet.1 with hw | hw
  · rw [hstack] at hw
    rcases List.mem_append.1 hw with hw | hw
    · exact .inl (by simp [hw])
    rcases List.mem_cons.1 hw with rfl | hw
    · exact .inl (by simp)
    · exact .inr (.inr ⟨hw, hmet.2 hw⟩)
  · exact .inr (.inl hw)

/-- A link that is the node's own number: the stack down to `v` is the next complete set. -/
theorem Scanned.settled (hs : s.Valid g path) (hv : ¬ s.Met v)
    (h : Scanned g path s v (g.get v) r) (hlow : r.1 = s.next)
    (hstack : r.2.stack = t ++ v :: s.stack) :
    g.Settled (r.2.components ++ [t ++ [v]]) := by
  have hnodup := h.valid.nodup
  rw [hstack] at hnodup
  have hout : ∀ u w, u ∈ t ++ [v] ∨ u ∈ r.2.components.flatten → g.Edge u w →
      w ∈ t ++ [v] ∨ w ∈ r.2.components.flatten := by
    rintro u w (hu | hu) he
    · rcases h.edge hs hv hstack hu he with hw | hw | ⟨hw, hle⟩
      · exact .inl hw
      · exact .inr hw
      · have := hs.below w hw
        omega
    · exact .inr (h.valid.settled.closed u w hu he)
  have hrank : ∀ u ∈ t ++ [v], u ∈ r.2.stack ∧ r.2.rank v ≤ r.2.rank u := by
    intro u hu
    obtain ⟨t', hstack', habove, _⟩ := h.above
    obtain rfl : t = t' := List.append_cancel_right (hstack.symm.trans hstack')
    rcases List.mem_append.1 hu with hu | hu
    · refine ⟨by simp [hstack, hu], ?_⟩
      rw [h.rank_self]
      exact Nat.le_of_lt (habove u hu)
    · obtain rfl := List.mem_singleton.1 hu
      exact ⟨by simp [hstack], Nat.le_refl _⟩
  have hdown : ∀ u ∈ t ++ [v], g.Reaches v u := fun u hu =>
    h.valid.onward v (by simp [hstack]) u (hrank u hu).1 (hrank u hu).2
  have hup : ∀ u ∈ t ++ [v], g.Reaches u v := by
    intro u hu
    obtain ⟨x, hx, _, hux⟩ := h.valid.home u (hrank u hu).1
    rcases List.mem_cons.1 hx with rfl | hx
    · exact hux
    -- a walk to another node under visit would have to leave the new set
    have hxs := hs.path_subset x hx
    have hin := hux.closed hout (.inl hu)
    rw [List.append_cons, List.append_assoc] at hnodup
    rcases hin with hin | hin
    · exact absurd (List.nodup_append.1 hnodup).2.2 (fun hd => hd x hin x (by simp [hxs]) rfl)
    · have hd := (List.nodup_append.1 (List.nodup_append.1 hnodup).2.1).2.2
      exact absurd rfl (hd x hxs x hin)
  refine h.valid.settled.snoc (by simp) ?_ ?_ ?_
  · intro u hu hc
    rw [List.append_cons, List.append_assoc] at hnodup
    exact (List.nodup_append.1 hnodup).2.2 u hu u (List.mem_append_right _ hc) rfl
  · intro u hu w hw
    exact (hup u hu).trans (hdown w hw)
  · intro u hu w he
    exact hout u w (.inl hu) he

/-- A node whose link is its own number takes the stack down to it away. -/
theorem Scanned.close (hs : s.Valid g path) (hv : ¬ s.Met v)
    (h : Scanned g path s v (g.get v) r) (hlow : r.1 = s.next) :
    Visited g path s v (r.1, r.2.close v) := by
  obtain ⟨t, hstack, habove, _⟩ := h.above
  have hgrow := h.grows_start hv
  have hvt : v ∉ t := by
    intro hm
    exact h.not_path hs hv (habove v hm) List.mem_cons_self
  rw [close_of_stack hstack hvt]
  have hperm : (s.stack ++ (r.2.components ++ [t ++ [v]]).flatten).Perm
      (r.2.stack ++ r.2.components.flatten) := by
    rw [hstack]
    grind
  have hmet : ∀ u, r.2.Met u ↔ u ∈ s.stack ∨ u ∈ (r.2.components ++ [t ++ [v]]).flatten := by
    intro u
    rw [h.valid.met_iff, ← List.mem_append, ← hperm.mem_iff, List.mem_append]
  have hvalid : Valid g path ⟨r.2.index, r.2.next, s.stack, r.2.components ++ [t ++ [v]]⟩ :=
    hs.regrown ⟨hgrow.index, hgrow.next⟩ rfl (hperm.nodup_iff.2 h.valid.nodup) hmet
      (h.settled hs hv hlow hstack)
  refine ⟨hvalid, ⟨hgrow.index, hgrow.next⟩, ?_, ⟨[], rfl, by simp, by simp⟩, h.link⟩
  exact h.valid.met_of_stack (by simp [hstack])

/-- A node that leads to an older one stays on the stack. -/
theorem Scanned.keep (hs : s.Valid g path) (hv : ¬ s.Met v)
    (h : Scanned g path s v (g.get v) r) (hlow : r.1 ≠ s.next) : Visited g path s v r := by
  obtain ⟨t, hstack, habove, hedge⟩ := h.above
  have hvs : v ∈ r.2.stack := by simp [hstack]
  obtain ⟨y, hy, hyr, hvy⟩ := h.link.resolve_left hlow
  have hybelow := hs.below y hy
  have hpath : ∀ u ∈ path, u ∈ s.stack := hs.path_subset
  refine ⟨?_, h.grows_start hv, h.valid.met_of_stack hvs, ?_, h.link⟩
  · refine { h.valid with
      path_nodup := hs.path_nodup
      path_subset := fun u hu => h.valid.path_subset u (List.mem_cons_of_mem _ hu)
      finished := fun u hu hup w he => ?_
      home := fun u hu => ?_ }
    · by_cases huv : u = v
      · subst huv
        exact (h.done w he).1
      · exact h.valid.finished u hu (fun hm => hup ((List.mem_cons.1 hm).resolve_left huv)) w he
    · obtain ⟨x, hx, hle, hux⟩ := h.valid.home u hu
      rcases List.mem_cons.1 hx with rfl | hx
      · obtain ⟨z, hz, hzy, hyz⟩ := hs.home y hy
        refine ⟨z, hz, ?_, hux.trans (hvy.trans hyz)⟩
        have := h.rank_self
        rw [h.rank_old hs hv (hpath z hz)]
        omega
      · exact ⟨x, hx, hle, hux⟩
  · refine ⟨t ++ [v], by simp [hstack], fun u hu => ?_, fun u hu w hw he => ?_⟩
    · rcases List.mem_append.1 hu with hu | hu
      · exact Nat.le_of_lt (habove u hu)
      · rw [List.mem_singleton.1 hu, h.rank_self]
    · rcases List.mem_append.1 hu with hu | hu
      · exact hedge u hu w hw he
      · obtain rfl := List.mem_singleton.1 hu
        exact (h.done w he).2 hw

end

end

end Search

/-- Every visit of a new node keeps the search valid: with as much fuel as there are nodes off the
path, it never runs out. -/
theorem visits (g : Digraph n) (fuel : Nat) : Search.Visits g (visit g fuel) fuel := by
  induction fuel with
  | zero =>
    intro path s v hs hv _ hfuel
    have hlt := hs.length_path_lt hv
    omega
  | succ fuel ih =>
    intro path s v hs hv hpath hfuel
    have h := (Search.scanned_meet hs hv hpath).foldl ih hs hv hpath hfuel (g.get v) (fun _ hw => hw)
    unfold visit
    simp only
    split
    next hlow => exact h.close hs hv hlow
    next hlow => exact h.keep hs hv hlow

theorem visitNew_of_met {g : Digraph n} {s : Search n} {v : Fin n} (hv : s.Met v) :
    visitNew g s v = s := by
  unfold visitNew
  rw [if_neg (by simpa [Search.Met, Option.isSome_iff_ne_none] using hv)]

theorem visitNew_of_not_met {g : Digraph n} {s : Search n} {v : Fin n} (hv : ¬ s.Met v) :
    visitNew g s v = (visit g n s v).2 := by
  unfold visitNew
  rw [if_pos (by simpa [Search.Met] using hv)]

/-- What holds between the visits from outside, when no node is under visit. -/
theorem visitNew_valid {g : Digraph n} {s : Search n} (hs : s.Valid g []) (v : Fin n) :
    (visitNew g s v).Valid g [] ∧ s.Grows (visitNew g s v) ∧ (visitNew g s v).Met v := by
  by_cases hv : s.Met v
  · rw [visitNew_of_met hv]
    exact ⟨hs, .refl s, hv⟩
  · rw [visitNew_of_not_met hv]
    have h := visits g n [] s v hs hv (by simp) (by simp)
    exact ⟨h.valid, h.grows, h.met⟩

theorem foldl_visitNew_valid {g : Digraph n} (nodes : List (Fin n)) {s : Search n}
    (hs : s.Valid g []) :
    (nodes.foldl (visitNew g) s).Valid g [] ∧ s.Grows (nodes.foldl (visitNew g) s) ∧
      ∀ v ∈ nodes, (nodes.foldl (visitNew g) s).Met v := by
  induction nodes generalizing s with
  | nil => exact ⟨hs, .refl s, by simp⟩
  | cons v rest ih =>
    obtain ⟨hvalid, hgrow, hmet⟩ := visitNew_valid hs v
    obtain ⟨hvalid', hgrow', hmet'⟩ := ih hvalid
    refine ⟨hvalid', hgrow.trans hgrow', fun u hu => ?_⟩
    rcases List.mem_cons.1 hu with rfl | hu
    · exact hgrow'.met hmet
    · exact hmet' u hu

/-- The components are complete sets. -/
theorem components_settled (g : Digraph n) : g.Settled g.components :=
  (foldl_visitNew_valid (List.finRange n) (Search.valid_start g)).1.settled

/-- Every node is in exactly one component. -/
theorem components_perm (g : Digraph n) : g.components.flatten.Perm (List.finRange n) := by
  obtain ⟨hvalid, _, hmet⟩ := foldl_visitNew_valid (List.finRange n) (Search.valid_start g)
  have hstack : ∀ v, v ∉ ((List.finRange n).foldl (visitNew g) (.start n)).stack := by
    intro v hv
    obtain ⟨u, hu, _⟩ := hvalid.home v hv
    exact List.not_mem_nil hu
  have hnodup := (List.nodup_append.1 hvalid.nodup).2.1
  refine (List.perm_ext_iff_of_nodup hnodup (List.nodup_finRange n)).2 fun v => ?_
  have hv := (hvalid.met_iff v).1 (hmet v (List.mem_finRange v))
  exact ⟨fun _ => List.mem_finRange v, fun _ => hv.resolve_left (hstack v)⟩

end RemoteTable.Digraph
