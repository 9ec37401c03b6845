import Mathlib
import RemoteTable.Proofs.Query.Deferral

/-!
Which predicates are translated, and what becomes of what they join. The leaves of a predicate are
translated one by one, in order; how conjunctions and disjunctions are nested does not matter, as
long as no conjunction stands in a disjunction and neither stands in a negation.
-/

namespace RemoteTable

namespace Expr

/-- What conjunctions and disjunctions join, in order. -/
def leaves : Expr → List Expr
  | .convert e => leaves e
  | .and l r => leaves l ++ leaves r
  | .or l r => leaves l ++ leaves r
  | e => [e]

/-- The leaves that stand in no disjunction. -/
def looseLeaves : Expr → List Expr
  | .convert e => looseLeaves e
  | .and l r => looseLeaves l ++ looseLeaves r
  | .or _ _ => []
  | e => [e]

/-- The disjunctions that stand in no other. -/
def disjunctions : Expr → List Expr
  | .convert e => disjunctions e
  | .and l r => disjunctions l ++ disjunctions r
  | .or l r => [.or l r]
  | _ => []

def isConjunction : Expr → Bool
  | .and _ _ => true
  | _ => false

/-- A conjunction or a disjunction. -/
def isJunction : Expr → Bool
  | .and _ _ => true
  | .or _ _ => true
  | _ => false

/-- Nothing of a kind occurs in an expression, at any depth. -/
def Lacks (kind : Expr → Bool) (e : Expr) : Prop := ∀ part ∈ e.parts, kind part = false

/-- No conjunction occurs below a disjunction or a negation, and no disjunction below a negation. -/
structure Flat (e : Expr) : Prop where
  disjunction : ∀ l r, .or l r ∈ e.parts → (Expr.or l r).Lacks isConjunction
  negation : ∀ x, .not x ∈ e.parts → x.Lacks isJunction

/-- What is left without negations and conversions. -/
def unnegated : Expr → Expr
  | .convert e => unnegated e
  | .not e => unnegated e
  | e => e

/-- A column, a comparison or a call. -/
def isTest : Expr → Bool
  | .column _ => true
  | .compare _ _ _ => true
  | .call _ _ _ => true
  | _ => false

variable {kind : Expr → Bool} {e l r part : Expr}

theorem Lacks.of_part (h : e.Lacks kind) (hpart : part ∈ e.parts) : part.Lacks kind :=
  fun _ hinner => h _ (closed_parts e part hpart hinner)

theorem Lacks.conjunction (h : e.Lacks isJunction) : e.Lacks isConjunction := by
  intro part hpart
  have := h part hpart
  cases part <;> first | rfl | simp [isJunction] at this

theorem lacks_convert (hkind : kind (.convert e) = false) :
    (Expr.convert e).Lacks kind ↔ e.Lacks kind := by
  simp [Lacks, parts, hkind]

theorem lacks_or : (Expr.or l r).Lacks isConjunction ↔
    l.Lacks isConjunction ∧ r.Lacks isConjunction := by
  simp [Lacks, parts, isConjunction, or_imp, forall_and]

theorem lacks_of_stripped (h : e.stripped.Lacks isJunction) : e.Lacks isJunction := by
  fun_induction stripped e with
  | case1 e ih => exact (lacks_convert rfl).2 (ih h)
  | case2 => exact h

theorem lacks_column (h : ∃ p, e.stripped = .column p) : e.Lacks isJunction := by
  obtain ⟨p, hp⟩ := h
  apply lacks_of_stripped
  simp [hp, Lacks, parts, isJunction]

theorem flat_of_lacks (h : e.Lacks isJunction) : e.Flat where
  disjunction l r hor := (h.of_part hor).conjunction
  negation x hnot := (h.of_part hnot).of_part (by simp [parts])

theorem Flat.of_part (h : e.Flat) (hpart : part ∈ e.parts) : part.Flat where
  disjunction l r hor := h.disjunction l r (closed_parts e part hpart hor)
  negation x hnot := h.negation x (closed_parts e part hpart hnot)

theorem flat_convert (h : e.Flat) : (Expr.convert e).Flat where
  disjunction l r hor := h.disjunction l r (by simpa [parts] using hor)
  negation x hnot := h.negation x (by simpa [parts] using hnot)

theorem flat_and (hl : l.Flat) (hr : r.Flat) : (Expr.and l r).Flat where
  disjunction a b hor := by
    simp only [parts, List.mem_cons, reduceCtorEq, false_or, List.mem_append] at hor
    exact hor.elim (hl.disjunction a b) (hr.disjunction a b)
  negation x hnot := by
    simp only [parts, List.mem_cons, reduceCtorEq, false_or, List.mem_append] at hnot
    exact hnot.elim (hl.negation x) (hr.negation x)

theorem flat_or (hlacks : (Expr.or l r).Lacks isConjunction) (hl : l.Flat) (hr : r.Flat) :
    (Expr.or l r).Flat where
  disjunction a b hor := hlacks.of_part hor
  negation x hnot := by
    simp only [parts, List.mem_cons, reduceCtorEq, false_or, List.mem_append] at hnot
    exact hnot.elim (hl.negation x) (hr.negation x)

/-- A leaf is neither a conversion nor a junction. -/
theorem leaf_cases {leaf : Expr} (h : leaf ∈ e.leaves) :
    (∀ x, leaf ≠ .convert x) ∧ (∀ a b, leaf ≠ .and a b) ∧ ∀ a b, leaf ≠ .or a b := by
  fun_induction leaves e with
  | case1 e ih => exact ih h
  | case2 l r ihl ihr => exact (List.mem_append.1 h).elim ihl ihr
  | case3 l r ihl ihr => exact (List.mem_append.1 h).elim ihl ihr
  | case4 e hconvert hand hor =>
    obtain rfl := List.mem_singleton.1 h
    exact ⟨hconvert, hand, hor⟩

theorem disjunction_cases {d : Expr} (h : d ∈ e.disjunctions) :
    ∃ l r, d = .or l r ∧ .or l r ∈ e.parts := by
  fun_induction disjunctions e with
  | case1 e ih =>
    obtain ⟨l, r, rfl, hpart⟩ := ih h
    exact ⟨l, r, rfl, by simp [parts, hpart]⟩
  | case2 l r ihl ihr =>
    rcases List.mem_append.1 h with h | h
    · obtain ⟨a, b, rfl, hpart⟩ := ihl h
      exact ⟨a, b, rfl, by simp [parts, hpart]⟩
    · obtain ⟨a, b, rfl, hpart⟩ := ihr h
      exact ⟨a, b, rfl, by simp [parts, hpart]⟩
  | case3 l r => exact ⟨l, r, List.mem_singleton.1 h, mem_parts_self _⟩
  | case4 => simp at h

/-- Every leaf is a loose one or a leaf of one of the disjunctions. -/
theorem leaves_perm (e : Expr) :
    (e.looseLeaves ++ e.disjunctions.flatMap leaves).Perm e.leaves := by
  fun_induction leaves e with
  | case1 e ih => exact ih
  | case2 l r ihl ihr =>
    rw [looseLeaves, disjunctions, List.flatMap_append]
    refine .trans ?_ (ihl.append ihr)
    simp only [List.append_assoc]
    refine .append_left _ ?_
    rw [← List.append_assoc, ← List.append_assoc]
    exact .append_right _ List.perm_append_comm
  | case3 l r => simp [looseLeaves, disjunctions, leaves]
  | case4 e hconvert hand hor => simp [looseLeaves, disjunctions]

theorem looseLeaves_sublist (e : Expr) : e.looseLeaves.Sublist e.leaves := by
  fun_induction leaves e with
  | case1 e ih => exact ih
  | case2 l r ihl ihr => exact ihl.append ihr
  | case3 => exact List.nil_sublist _
  | case4 e hconvert hand hor => simp [looseLeaves]

theorem leaves_disjunctions_sublist (e : Expr) :
    (e.disjunctions.flatMap leaves).Sublist e.leaves := by
  fun_induction disjunctions e with
  | case1 e ih => exact ih
  | case2 l r ihl ihr =>
    rw [List.flatMap_append]
    exact ihl.append ihr
  | case3 => simp
  | case4 => exact List.nil_sublist _

end Expr

theorem Conditions.append_assoc (a b c : Conditions) : a ++ b ++ c = a ++ (b ++ c) :=
  congrArg₂ Conditions.mk (List.append_assoc ..) (List.append_assoc ..)

namespace Predicate

variable {m : Entity} {e : Expr} {f : Filter}

/-- An operand is a constant or a parameter, which has nothing below it. -/
theorem Gives.lacks {form : Value → Option Value} {o : Operand} (h : Gives form e.stripped o) :
    e.Lacks Expr.isJunction := by
  apply Expr.lacks_of_stripped
  generalize e.stripped = e at h
  cases h <;> simp [Expr.Lacks, Expr.parts, Expr.isJunction]

theorem lacks_ofComparison {op : Comparison} {l r : Expr} (h : ofComparison m op l r = .ok f) :
    (Expr.compare op l r).Lacks Expr.isJunction := by
  suffices hsides : l.Lacks Expr.isJunction ∧ r.Lacks Expr.isJunction by
    simpa [Expr.Lacks, Expr.parts, Expr.isJunction, or_imp, forall_and] using hsides
  rcases ofComparison_eq_ok.1 h with ⟨p, hp, h⟩ | ⟨p, hp, h⟩
  · obtain ⟨c, o, -, ho, -⟩ := compareColumn_eq_ok.1 h
    exact ⟨Expr.lacks_column ⟨p, hp⟩, ho.lacks⟩
  · obtain ⟨c, o, -, ho, -⟩ := compareColumn_eq_ok.1 h
    exact ⟨ho.lacks, Expr.lacks_column ⟨p, hp⟩⟩

theorem lacks_listSearch {list item : Expr} (h : listSearch m list item = .ok f) :
    list.Lacks Expr.isJunction ∧ item.Lacks Expr.isJunction := by
  obtain ⟨p, c, o, hp, -, ho, -⟩ := listSearch_eq_ok.1 h
  exact ⟨ho.lacks, Expr.lacks_column ⟨p, hp⟩⟩

theorem lacks_patternMatch {method : CallName} {op : ColumnTest} {subject pattern : Expr}
    (h : patternMatch m method op subject pattern = .ok f) :
    subject.Lacks Expr.isJunction ∧ pattern.Lacks Expr.isJunction := by
  obtain ⟨p, c, o, hp, -, ho, -⟩ := patternMatch_eq_ok.1 h
  exact ⟨Expr.lacks_column ⟨p, hp⟩, ho.lacks⟩

theorem lacks_ofCall {method : CallName} {target : Option Expr} {args : List Expr}
    (h : ofCall m method target args = .ok f) :
    (Expr.call method target args).Lacks Expr.isJunction := by
  suffices hparts : (∀ part ∈ Expr.partsOfTarget target, part.isJunction = false) ∧
      ∀ part ∈ Expr.partsOfItems args, part.isJunction = false by
    simpa [Expr.Lacks, Expr.parts, Expr.isJunction, or_imp, forall_and] using hparts
  cases ofCall_eq_ok.1 h with
  | text _ column search =>
    obtain ⟨c, o, -, ho, -⟩ := textSearch_eq_ok.1 search
    refine ⟨Expr.lacks_column ⟨_, column⟩, ?_⟩
    rw [Expr.partsOfItems, Expr.partsOfItems, List.append_nil]
    exact ho.lacks
  | list _ search =>
    obtain ⟨hlist, hitem⟩ := lacks_listSearch search
    refine ⟨hlist, ?_⟩
    rw [Expr.partsOfItems, Expr.partsOfItems, List.append_nil]
    exact hitem
  | member search =>
    obtain ⟨hlist, hitem⟩ := lacks_listSearch search
    exact ⟨by simp [Expr.partsOfTarget],
      by simpa [Expr.partsOfItems, or_imp, forall_and] using ⟨hlist, hitem⟩⟩
  | like search =>
    obtain ⟨hsubject, hpattern⟩ := lacks_patternMatch search
    exact ⟨by simp [Expr.partsOfTarget],
      by simpa [Expr.partsOfItems, or_imp, forall_and] using ⟨hsubject, hpattern⟩⟩
  | ilike search =>
    obtain ⟨hsubject, hpattern⟩ := lacks_patternMatch search
    exact ⟨by simp [Expr.partsOfTarget],
      by simpa [Expr.partsOfItems, or_imp, forall_and] using ⟨hsubject, hpattern⟩⟩

/-- What is one filter joins nothing, and is a test under negations. -/
theorem lacks_filterOf (h : filterOf m e = .ok f) :
    e.Lacks Expr.isJunction ∧ e.unnegated.isTest = true := by
  fun_induction filterOf m e generalizing f with
  | case1 e ih => exact ⟨(Expr.lacks_convert rfl).2 (ih h).1, (ih h).2⟩
  | case2 e ih =>
    obtain ⟨g, hg, -⟩ := Except.map_eq_ok.1 h
    obtain ⟨hlacks, htest⟩ := ih (Except.mapError_eq_ok.1 hg)
    exact ⟨by simpa [Expr.Lacks, Expr.parts, Expr.isJunction] using hlacks, htest⟩
  | case3 op l r => exact ⟨lacks_ofComparison h, rfl⟩
  | case7 method target args => exact ⟨lacks_ofCall h, rfl⟩
  | case8 p => exact ⟨by simp [Expr.Lacks, Expr.parts, Expr.isJunction], rfl⟩
  | _ => simp at h

theorem flat_branches {g : List Filter} (h : branches m e = .ok g) :
    e.Lacks Expr.isConjunction ∧ e.Flat := by
  fun_induction branches m e generalizing g with
  | case1 e ih => exact ⟨(Expr.lacks_convert rfl).2 (ih h).1, Expr.flat_convert (ih h).2⟩
  | case2 l r ihl ihr =>
    obtain ⟨a, ha, h⟩ := Except.bind_eq_ok.1 h
    obtain ⟨b, hb, h⟩ := Except.bind_eq_ok.1 h
    have hlacks := Expr.lacks_or.2 ⟨(ihl ha).1, (ihr hb).1⟩
    exact ⟨hlacks, Expr.flat_or hlacks (ihl ha).2 (ihr hb).2⟩
  | case3 e _ _ =>
    obtain ⟨f, hf, -⟩ := Except.map_eq_ok.1 h
    have hlacks := (lacks_filterOf hf).1
    exact ⟨hlacks.conjunction, Expr.flat_of_lacks hlacks⟩

theorem flat_conditionsOf {c : Conditions} (h : conditionsOf m e = .ok c) : e.Flat := by
  fun_induction conditionsOf m e generalizing c with
  | case1 e ih => exact Expr.flat_convert (ih h)
  | case2 l r ihl ihr =>
    obtain ⟨a, ha, h⟩ := Except.bind_eq_ok.1 h
    obtain ⟨b, hb, h⟩ := Except.bind_eq_ok.1 h
    exact Expr.flat_and (ihl ha) (ihr hb)
  | case3 l r =>
    obtain ⟨g, hg, -⟩ := Except.map_eq_ok.1 h
    exact (flat_branches hg).2
  | case4 e _ _ _ =>
    obtain ⟨f, hf, -⟩ := Except.map_eq_ok.1 h
    exact Expr.flat_of_lacks (lacks_filterOf hf).1

/-- The branches of a disjunction are its leaves, one after another. -/
theorem branches_eq_mapM (h : e.Lacks Expr.isConjunction) :
    branches m e = e.leaves.mapM (filterOf m) := by
  fun_induction branches m e with
  | case1 e ih => exact ih (h.of_part (by simp [Expr.parts]))
  | case2 l r ihl ihr =>
    obtain ⟨hl, hr⟩ := Expr.lacks_or.1 h
    rw [ihl hl, ihr hr, Expr.leaves, List.mapM_append]
    rfl
  | case3 e hconvert hor =>
    have hand : ∀ a b, e ≠ .and a b := by
      rintro a b rfl
      simpa [Expr.isConjunction] using h _ (Expr.mem_parts_self _)
    rw [Expr.leaves, Except.mapM_singleton]
    exacts [hconvert, hand, hor]

/-- The conditions of a predicate are the filters of its loose leaves and the groups of its
disjunctions. -/
theorem conditionsOf_eq_ok {c : Conditions} : conditionsOf m e = .ok c ↔
    e.looseLeaves.mapM (filterOf m) = .ok c.filters ∧
      e.disjunctions.mapM (branches m) = .ok c.groups := by
  fun_induction conditionsOf m e generalizing c with
  | case1 e ih => exact ih
  | case2 l r ihl ihr =>
    simp only [Except.bind_eq_ok, Expr.looseLeaves, Expr.disjunctions, Except.mapM_append_eq_ok,
      ihl, ihr]
    constructor
    · rintro ⟨a, ⟨hfa, hga⟩, b, ⟨hfb, hgb⟩, h⟩
      obtain rfl := Except.ok.inj h
      exact ⟨⟨_, _, hfa, hfb, rfl⟩, _, _, hga, hgb, rfl⟩
    · rintro ⟨⟨fa, fb, hfa, hfb, hf⟩, ga, gb, hga, hgb, hg⟩
      refine ⟨⟨fa, ga⟩, ⟨hfa, hga⟩, ⟨fb, gb⟩, ⟨hfb, hgb⟩, ?_⟩
      exact congrArg Except.ok (congrArg₂ Conditions.mk hf hg).symm
  | case3 l r =>
    rw [Expr.looseLeaves, Expr.disjunctions, Except.mapM_singleton, Except.map_eq_ok,
      Except.map_eq_ok]
    constructor
    · rintro ⟨g, hg, rfl⟩
      exact ⟨rfl, g, hg, rfl⟩
    · rintro ⟨hf, g, hg, h⟩
      refine ⟨g, hg, ?_⟩
      exact congrArg₂ Conditions.mk (Except.ok.inj hf) h
  | case4 e hconvert hand hor =>
    have hloose : e.looseLeaves = [e] := by rw [Expr.looseLeaves]; exacts [hconvert, hand, hor]
    have hnone : e.disjunctions = [] := by rw [Expr.disjunctions]; exacts [hconvert, hand, hor]
    rw [hloose, hnone, Except.mapM_singleton, Except.map_eq_ok, Except.map_eq_ok]
    constructor
    · rintro ⟨f, hf, rfl⟩
      exact ⟨⟨f, hf, rfl⟩, rfl⟩
    · rintro ⟨⟨f, hf, h⟩, hg⟩
      refine ⟨f, hf, ?_⟩
      exact congrArg₂ Conditions.mk h (Except.ok.inj hg)

/-- A filter stands for a leaf by itself. -/
def Translates (m : Entity) (leaf : Expr) (f : Filter) : Prop :=
  conditionsOf m leaf = .ok ⟨[f], []⟩

theorem conditionsOf_leaf {leaf : Expr} (h : leaf ∈ e.leaves) :
    conditionsOf m leaf = (filterOf m leaf).map fun f => ⟨[f], []⟩ := by
  obtain ⟨hconvert, hand, hor⟩ := Expr.leaf_cases h
  rw [conditionsOf]
  exacts [hconvert, hand, hor]

theorem translates_iff {leaf : Expr} (h : leaf ∈ e.leaves) :
    Translates m leaf f ↔ filterOf m leaf = .ok f := by
  rw [Translates, conditionsOf_leaf h, Except.map_eq_ok]
  simp

theorem accepted_iff {leaf : Expr} (h : leaf ∈ e.leaves) :
    (∃ c, conditionsOf m leaf = .ok c) ↔ ∃ f, filterOf m leaf = .ok f := by
  rw [conditionsOf_leaf h]
  cases filterOf m leaf <;> simp [Except.map]

/-- Where the members of a list are leaves, their filters stand for them. -/
theorem forall₂_translates {l : List Expr} {fs : List Filter} (hl : l ⊆ e.leaves)
    (h : l.mapM (filterOf m) = .ok fs) : List.Forall₂ (Translates m) l fs := by
  induction Except.mapM_eq_ok.1 h with
  | nil => exact .nil
  | cons ha hrest ih =>
    obtain ⟨hmem, hl⟩ := List.cons_subset.1 hl
    exact .cons ((translates_iff hmem).2 ha) (ih hl (Except.mapM_eq_ok.2 hrest))

/-- What the translation of a predicate has to do with its leaves. -/
structure Flattening (m : Entity) (e : Expr) : Prop where
  accepted : (∃ c, conditionsOf m e = .ok c) ↔
    e.Flat ∧ ∀ leaf ∈ e.leaves, ∃ c, conditionsOf m leaf = .ok c
  tests : ∀ leaf ∈ e.leaves, (∃ c, conditionsOf m leaf = .ok c) → leaf.unnegated.isTest = true
  conditions : ∀ c, conditionsOf m e = .ok c →
    List.Forall₂ (Translates m) e.looseLeaves c.filters ∧
      List.Forall₂ (fun d g => List.Forall₂ (Translates m) d.leaves g) e.disjunctions c.groups
  complete : (e.looseLeaves ++ e.disjunctions.flatMap Expr.leaves).Perm e.leaves
  in_order : e.looseLeaves.Sublist e.leaves ∧
    (e.disjunctions.flatMap Expr.leaves).Sublist e.leaves

theorem conditions_of_ok {c : Conditions} (h : conditionsOf m e = .ok c) :
    List.Forall₂ (Translates m) e.looseLeaves c.filters ∧
      List.Forall₂ (fun d g => List.Forall₂ (Translates m) d.leaves g) e.disjunctions c.groups := by
  obtain ⟨hloose, hgroups⟩ := conditionsOf_eq_ok.1 h
  refine ⟨forall₂_translates (Expr.looseLeaves_sublist e).subset hloose, ?_⟩
  refine (Except.mapM_eq_ok.1 hgroups).imp fun d g hg => ?_
  rw [branches_eq_mapM (flat_branches hg).1] at hg
  exact forall₂_translates (List.Subset.refl _) hg

/-- A predicate is translated if its loose leaves and its disjunctions are. -/
theorem exists_conditionsOf_iff : (∃ c, conditionsOf m e = .ok c) ↔
    (∀ leaf ∈ e.looseLeaves, ∃ f, filterOf m leaf = .ok f) ∧
      ∀ d ∈ e.disjunctions, ∃ g, branches m d = .ok g := by
  rw [← Except.exists_mapM_iff, ← Except.exists_mapM_iff]
  constructor
  · rintro ⟨c, hc⟩
    obtain ⟨hloose, hgroups⟩ := conditionsOf_eq_ok.1 hc
    exact ⟨⟨_, hloose⟩, _, hgroups⟩
  · rintro ⟨⟨fs, hfs⟩, gs, hgs⟩
    exact ⟨⟨fs, gs⟩, conditionsOf_eq_ok.2 ⟨hfs, hgs⟩⟩

/-- For a flat predicate it is enough that every leaf is one filter. -/
theorem accepted_iff_leaves (hflat : e.Flat) : (∃ c, conditionsOf m e = .ok c) ↔
    ∀ leaf ∈ e.leaves, ∃ f, filterOf m leaf = .ok f := by
  have hdisjunction : ∀ d ∈ e.disjunctions, (∃ g, branches m d = .ok g) ↔
      ∀ leaf ∈ d.leaves, ∃ f, filterOf m leaf = .ok f := by
    intro d hd
    obtain ⟨l, r, rfl, hpart⟩ := Expr.disjunction_cases hd
    rw [branches_eq_mapM (hflat.disjunction l r hpart), Except.exists_mapM_iff]
  simp only [← (Expr.leaves_perm e).mem_iff, List.mem_append, List.mem_flatMap, or_imp, forall_and]
  rw [exists_conditionsOf_iff]
  refine and_congr_right fun _ => ⟨?_, ?_⟩
  · rintro h leaf ⟨d, hd, hleaf⟩
    exact (hdisjunction d hd).1 (h d hd) leaf hleaf
  · exact fun h d hd => (hdisjunction d hd).2 fun leaf hleaf => h leaf ⟨d, hd, hleaf⟩

/-- A predicate is translated just if it is flat and each of its leaves is translated by itself;
its filters and groups are then those of the leaves, in order, with none lost or repeated. -/
theorem flattening (m : Entity) (e : Expr) : Flattening m e where
  accepted := by
    have hleaves : (∀ leaf ∈ e.leaves, ∃ c, conditionsOf m leaf = .ok c) ↔
        ∀ leaf ∈ e.leaves, ∃ f, filterOf m leaf = .ok f :=
      forall₂_congr fun leaf hleaf => accepted_iff hleaf
    rw [hleaves]
    constructor
    · rintro ⟨c, hc⟩
      exact ⟨flat_conditionsOf hc, (accepted_iff_leaves (flat_conditionsOf hc)).1 ⟨c, hc⟩⟩
    · exact fun ⟨hflat, h⟩ => (accepted_iff_leaves hflat).2 h
  tests leaf hleaf h := by
    obtain ⟨f, hf⟩ := (accepted_iff hleaf).1 h
    exact (lacks_filterOf hf).2
  conditions c := conditions_of_ok
  complete := Expr.leaves_perm e
  in_order := ⟨Expr.looseLeaves_sublist e, Expr.leaves_disjunctions_sublist e⟩

end Predicate

namespace Pipeline

/-- A query that has passed some more conditions. -/
def narrowed (t : Pipeline) (c : Conditions) : Pipeline :=
  { t with query := { t.query with conditions := t.query.conditions ++ c } }

theorem narrowed_append (t : Pipeline) (a b : Conditions) :
    t.narrowed (a ++ b) = (t.narrowed a).narrowed b := by
  simp only [narrowed, Conditions.append_assoc]

theorem extend_filter (t : Pipeline) (e : Expr) : t.extend (.filter e) = (do
    t.checkUnshaped
    t.checkUnpaged
    let c ← Predicate.conditionsOf t.model e
    .ok (t.narrowed c)) := rfl

/-- Two filters, one after the other, are the filter of their conjunction. -/
theorem extend_filter_and (t : Pipeline) (a b : Expr) :
    t.extend (.filter (.and a b)) = t.extend (.filter a) >>= fun t' => t'.extend (.filter b) := by
  simp only [extend_filter, Predicate.conditionsOf]
  cases hshape : t.checkUnshaped with
  | error u => rfl
  | ok =>
  cases hpage : t.checkUnpaged with
  | error u => rfl
  | ok =>
  cases Predicate.conditionsOf t.model a with
  | error u => rfl
  | ok ca =>
  -- the second filter meets the query as the first one has, but for its conditions
  have hshape' : (t.narrowed ca).checkUnshaped = .ok () := hshape
  have hpage' : (t.narrowed ca).checkUnpaged = .ok () := hpage
  have hmodel : (t.narrowed ca).model = t.model := rfl
  cases hb : Predicate.conditionsOf t.model b with
  | error u => simp [bind, Except.bind, hshape', hpage', hmodel, hb]
  | ok cb => simp [bind, Except.bind, hshape', hpage', hmodel, hb, narrowed_append]

/-- How a predicate is nested does not matter: its leaves are translated one by one, and two
filters in a row are one of their conjunction, accepted or refused for the same reason. -/
theorem filters_flatten (m : Entity) :
    (∀ e, Predicate.Flattening m e) ∧
      ∀ (t : Pipeline) (a b : Expr), t.extend (.filter (.and a b)) =
        t.extend (.filter a) >>= fun t' => t'.extend (.filter b) :=
  ⟨Predicate.flattening m, extend_filter_and⟩

end Pipeline

end RemoteTable
