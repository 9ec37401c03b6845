import RemoteTable.Proofs.Graph.Components

/-!
What a search makes of a graph. The search is told here with no bound on how deep visits are
nested, so that a derivation stands for a search that comes to an end. Every graph has one, and its
result takes the graph apart: the sets of mutually reachable nodes, each after those it leads to.
-/

namespace RemoteTable.Digraph

variable {n : Nat}

namespace Search

mutual

/-- A visit that comes to an end, with the link of the node and the search it leaves behind. To take
the set of a node off the stack, the node has to be there. -/
inductive Visit (g : Digraph n) : Search n → Fin n → Nat × Search n → Prop
  | close {s : Search n} {v : Fin n} {r : Nat × Search n}
      (scan : Scan g (s.next, s.meet v) (g.get v) r) (first : r.2.index.get v = some r.1)
      (found : v ∈ r.2.stack) : Visit g s v (r.1, r.2.close v)
  | keep {s : Search n} {v : Fin n} {r : Nat × Search n}
      (scan : Scan g (s.next, s.meet v) (g.get v) r) (later : r.2.index.get v ≠ some r.1) :
      Visit g s v r

/-- Successors of a node that are followed one after another, with the link of the node and the
search before and after. -/
inductive Scan (g : Digraph n) : Nat × Search n → List (Fin n) → Nat × Search n → Prop
  | done (a : Nat × Search n) : Scan g a [] a
  | visit {a b r : Nat × Search n} {w : Fin n} {rest : List (Fin n)}
      (new : a.2.index.get w = none) (visit : Visit g a.2 w b)
      (scan : Scan g (min a.1 b.1, b.2) rest r) : Scan g a (w :: rest) r
  | lower {a r : Nat × Search n} {w : Fin n} {rest : List (Fin n)} {i : Nat}
      (met : a.2.index.get w = some i) (waiting : w ∈ a.2.stack)
      (scan : Scan g (min a.1 i, a.2) rest r) : Scan g a (w :: rest) r
  | pass {a r : Nat × Search n} {w : Fin n} {rest : List (Fin n)} {i : Nat}
      (met : a.2.index.get w = some i) (complete : w ∉ a.2.stack) (scan : Scan g a rest r) :
      Scan g a (w :: rest) r

end

/-- Nodes that are visited one after another, but for those that have been met. -/
inductive Sweep (g : Digraph n) : Search n → List (Fin n) → Search n → Prop
  | done (s : Search n) : Sweep g s [] s
  | visit {s s' : Search n} {v : Fin n} {r : Nat × Search n} {rest : List (Fin n)}
      (new : ¬ s.Met v) (visit : Visit g s v r) (sweep : Sweep g r.2 rest s') :
      Sweep g s (v :: rest) s'
  | pass {s s' : Search n} {v : Fin n} {rest : List (Fin n)} (met : s.Met v)
      (sweep : Sweep g s rest s') : Sweep g s (v :: rest) s'

section

variable {g : Digraph n} {path : List (Fin n)} {s : Search n} {v : Fin n}

/-- A visit ends in one way only, as at every successor the search leaves no choice. -/
theorem Visit.unique {r r' : Nat × Search n} (h : Visit g s v r) (h' : Visit g s v r') :
    r = r' := by
  -- visits and scans are defined together, so each needs the other's statement in the induction
  refine @Visit.rec n g (fun s v r _ => ∀ r', Visit g s v r' → r = r')
    (fun a rest r _ => ∀ r', Scan g a rest r' → r = r')
    ?close ?keep ?done ?visit ?lower ?pass s v r h r' h'
  case close =>
    intro s v r scan first found ih r' h'
    cases h' with
    | close scan' first' found' => rw [ih _ scan']
    | keep scan' later =>
      rw [ih _ scan'] at first
      exact absurd first later
  case keep =>
    intro s v r scan later ih r' h'
    cases h' with
    | close scan' first found =>
      rw [← ih _ scan'] at first
      exact absurd first later
    | keep scan' later' => exact ih _ scan'
  case done =>
    intro a r' h'
    cases h'
    rfl
  case visit =>
    intro a b r w rest new visit scan ihvisit ihscan r' h'
    cases h' with
    | visit new' visit' scan' =>
      rw [← ihvisit _ visit'] at scan'
      exact ihscan _ scan'
    | lower met waiting scan' => simp [new] at met
    | pass met complete scan' => simp [new] at met
  case lower =>
    intro a r w rest i met waiting scan ih r' h'
    cases h' with
    | visit new visit scan' => simp [met] at new
    | lower met' waiting' scan' =>
      obtain rfl := Option.some.inj (met.symm.trans met')
      exact ih _ scan'
    | pass met' complete scan' => exact absurd waiting complete
  case pass =>
    intro a r w rest i met complete scan ih r' h'
    cases h' with
    | visit new visit scan' => simp [met] at new
    | lower met' waiting scan' => exact absurd waiting complete
    | pass met' complete' scan' => exact ih _ scan'

theorem Sweep.unique {t t' : Search n} {nodes : List (Fin n)} (h : Sweep g s nodes t)
    (h' : Sweep g s nodes t') : t = t' := by
  induction h with
  | done =>
    cases h'
    rfl
  | visit new visit sweep ih =>
    cases h' with
    | visit new' visit' sweep' =>
      rw [← visit.unique visit'] at sweep'
      exact ih sweep'
    | pass met sweep' => exact absurd met new
  | pass met sweep ih =>
    cases h' with
    | visit new visit sweep' => exact absurd met new
    | pass met' sweep' => exact ih sweep'

/-- Visits of nodes outside a longer path come to an end by themselves. -/
def Ends (g : Digraph n) (visit : Search n → Fin n → Nat × Search n) (fuel : Nat) : Prop :=
  ∀ path s v, s.Valid g path → ¬ s.Met v → (∀ u ∈ path, g.Reaches u v) →
    n ≤ fuel + path.length → Visit g s v (visit s v)

variable {visit : Search n → Fin n → Nat × Search n} {fuel : Nat} {done : List (Fin n)}
  {a : Nat × Search n}

/-- One more successor in front of those that are followed to the end. -/
theorem Scanned.scan_follow {w : Fin n} {rest : List (Fin n)} {r : Nat × Search n}
    (hends : Ends g visit fuel) (hpath : ∀ u ∈ path, g.Reaches u v)
    (hfuel : n ≤ fuel + 1 + path.length) (h : Scanned g path s v done a) (he : g.Edge v w)
    (hrest : Scan g (Digraph.follow visit a w) rest r) : Scan g a (w :: rest) r := by
  unfold Digraph.follow at hrest
  cases hi : a.2.index.get w with
  | none =>
    rw [hi] at hrest
    have hw : ¬ a.2.Met w := by simp [Met, hi]
    refine .visit hi (hends (v :: path) a.2 w h.valid hw (reaches_successor hpath he) ?_) hrest
    rw [List.length_cons]
    omega
  | some i =>
    rw [hi] at hrest
    by_cases hw : w ∈ a.2.stack
    · exact .lower hi hw (by simpa [hw] using hrest)
    · exact .pass hi hw (by simpa [hw] using hrest)

theorem Scanned.scan_foldl (hvisit : Visits g visit fuel) (hends : Ends g visit fuel)
    (hs : s.Valid g path) (hv : ¬ s.Met v) (hpath : ∀ u ∈ path, g.Reaches u v)
    (hfuel : n ≤ fuel + 1 + path.length) (rest : List (Fin n)) (hrest : ∀ w ∈ rest, g.Edge v w)
    (h : Scanned g path s v done a) : Scan g a rest (rest.foldl (Digraph.follow visit) a) := by
  induction rest generalizing done a with
  | nil => exact .done a
  | cons w rest ih =>
    have he := hrest w List.mem_cons_self
    have hnext := h.follow hvisit hs hv hpath hfuel he
    exact h.scan_follow hends hpath hfuel he
      (ih (fun y hy => hrest y (List.mem_cons_of_mem _ hy)) hnext)

end

end Search

variable {g : Digraph n}

/-- The bound on the nesting is never felt: a visit that is given as much fuel as there are nodes off
the path is one that comes to an end by itself. -/
theorem ends (g : Digraph n) (fuel : Nat) : Search.Ends g (visit g fuel) fuel := by
  induction fuel with
  | zero =>
    intro path s v hs hv _ hfuel
    have hlt := hs.length_path_lt hv
    omega
  | succ fuel ih =>
    intro path s v hs hv hpath hfuel
    have hmeet := Search.scanned_meet hs hv hpath
    have h := hmeet.foldl (visits g fuel) hs hv hpath hfuel (g.get v) (fun _ hw => hw)
    have hscan := hmeet.scan_foldl (visits g fuel) ih hs hv hpath hfuel (g.get v)
      (fun _ hw => hw)
    have hself := h.index_self
    unfold visit
    simp only
    split
    next hlow => exact .close hscan (by rw [hself, hlow]) h.mem_stack
    next hlow => exact .keep hscan (by rw [hself]; exact fun he => hlow (Option.some.inj he).symm)

theorem sweep_foldl (nodes : List (Fin n)) {s : Search n} (hs : s.Valid g []) :
    Search.Sweep g s nodes (nodes.foldl (visitNew g) s) := by
  induction nodes generalizing s with
  | nil => exact .done s
  | cons v rest ih =>
    have hrest := ih (visitNew_valid hs v).1
    rw [List.foldl_cons]
    by_cases hv : s.Met v
    · rw [visitNew_of_met hv] at hrest ⊢
      exact .pass hv hrest
    · rw [visitNew_of_not_met hv] at hrest ⊢
      exact .visit hv (ends g n [] s v hs hv (by simp) (by simp)) hrest

/-- A search of a graph comes to an end with these sets. -/
def Finds (g : Digraph n) (sets : List (List (Fin n))) : Prop :=
  ∃ s, Search.Sweep g (.start n) (List.finRange n) s ∧ s.components = sets

theorem finds_components (g : Digraph n) : g.Finds g.components :=
  ⟨_, sweep_foldl (List.finRange n) (Search.valid_start g), rfl⟩

theorem Finds.unique {sets sets' : List (List (Fin n))} (h : g.Finds sets) (h' : g.Finds sets') :
    sets = sets' := by
  obtain ⟨s, hs, rfl⟩ := h
  obtain ⟨s', hs', rfl⟩ := h'
  rw [hs.unique hs']

/-- The sets of mutually reachable nodes of a graph, each after those it leads to. -/
structure Decomposes (g : Digraph n) (sets : List (List (Fin n))) : Prop where
  nonempty : ∀ c ∈ sets, c ≠ []
  once : sets.flatten.Perm (List.finRange n)
  together : ∀ u v, (∃ c ∈ sets, u ∈ c ∧ v ∈ c) ↔ g.Reaches u v ∧ g.Reaches v u
  earlier : ∀ i j : Fin sets.length, i ≠ j → ∀ u ∈ sets.get i, ∀ v ∈ sets.get j,
    g.Reaches u v → j < i

/-- Complete sets in which every node is found. -/
theorem Settled.decomposes {sets : List (List (Fin n))} (h : g.Settled sets)
    (honce : sets.flatten.Perm (List.finRange n)) : g.Decomposes sets where
  nonempty := h.nonempty
  once := honce
  together u v := by
    constructor
    · rintro ⟨c, hc, hu, hv⟩
      exact (h.strong c hc u hu v).1 hv
    · intro huv
      obtain ⟨c, hc, hu⟩ := List.mem_flatten.1 (honce.mem_iff.2 (List.mem_finRange u))
      exact ⟨c, hc, hu, (h.strong c hc u hu v).2 huv⟩
  earlier i j hij u hu v hv huv := by
    rcases Nat.lt_or_gt_of_ne (fun he => hij (Fin.ext he)) with hlt | hgt
    · exact absurd huv ((List.pairwise_iff_get.1 h.earlier) i j hlt u hu v hv)
    · exact hgt

/-- The search of a graph comes to an end, with the components and nothing else, and they take the
graph apart. -/
theorem finds_decomposition (g : Digraph n) :
    (∀ sets, g.Finds sets ↔ sets = g.components) ∧ g.Decomposes g.components := by
  refine ⟨fun sets => ?_, g.components_settled.decomposes g.components_perm⟩
  constructor
  · intro h
    exact h.unique (finds_components g)
  · rintro rfl
    exact finds_components g

-- a ring of two nodes that a third leads to, with a loop and an edge that is there twice
example : components (#v[[1], [0, 1], [1, 2, 1]] : Digraph 3) = [[1, 0], [2]] := by decide

end RemoteTable.Digraph
