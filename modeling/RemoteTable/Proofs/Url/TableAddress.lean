import Mathlib
import RemoteTable.Proofs.Url.Unescaping
import RemoteTable.Query.QueryString

/-!
The address of a table says which table and which pairs, and nothing else. From its text the path is
divided into segments at the slashes: the last one is the table, those before it are those of the
base address. Its query is divided into the pairs.
-/

namespace RemoteTable.Url

open Text

/-- Segments that slashes divide. -/
def Slashless (l : List String) : Prop := ∀ s ∈ l, '/' ∉ s.toList

theorem Slashless.append {l l' : List String} (h : Slashless l) (h' : Slashless l') :
    Slashless (l ++ l') := fun s hs => (List.mem_append.1 hs).elim (h s) (h' s)

theorem Slashless.subset {l l' : List String} (h : Slashless l) (hl : l' ⊆ l) : Slashless l' :=
  fun s hs => h s (hl hs)

theorem slashless_nil : Slashless [] := List.forall_mem_nil _

theorem slashless_singleton {s : String} (h : '/' ∉ s.toList) : Slashless [s] :=
  List.forall_mem_singleton.2 h

/-- Escaping adds no slashes. -/
theorem slash_not_mem_escape {escaped : Char → Bool} {s : List Char}
    (h : ∀ c ∈ s, escaped c = false → c ≠ '/') : '/' ∉ escape escaped s := by
  intro hmem
  obtain ⟨c, hc, hslash⟩ := List.mem_flatMap.1 hmem
  cases hescaped : escaped c with
  | true =>
    rw [if_pos hescaped] at hslash
    obtain ⟨b, -, hb⟩ := List.mem_flatMap.1 hslash
    exact not_mem_escapeByte (by simp) b hb
  | false =>
    rw [hescaped, if_neg Bool.false_ne_true, List.mem_singleton] at hslash
    exact h c hc hescaped hslash.symm

section reading

/-- No part of a text that is divided at a class of characters has one of them. -/
theorem not_mem_splitBy {p : Char → Bool} {l s : List Char} (h : s ∈ splitBy p l) :
    ∀ c ∈ s, p c = false := by
  induction l generalizing s with
  | nil =>
    cases List.mem_singleton.1 h
    exact List.forall_mem_nil _
  | cons c l ih =>
    rw [splitBy] at h
    split at h
    · cases List.mem_singleton.1 h
      exact List.forall_mem_nil _
    next first rest hsplit =>
      rw [hsplit] at ih
      split at h
      · rcases List.mem_cons.1 h with rfl | h
        · exact List.forall_mem_nil _
        · exact ih h
      next hc =>
        rcases List.mem_cons.1 h with rfl | h
        · intro d hd
          rcases List.mem_cons.1 hd with rfl | hd
          · exact Bool.eq_false_of_not_eq_true hc
          · exact ih List.mem_cons_self d hd
        · exact ih (List.mem_cons_of_mem _ h)

theorem slashless_goUp {file : Bool} {l : List String} (h : Slashless l) :
    Slashless (goUp file l) := by
  unfold goUp
  split
  · split
    · exact h
    · exact slashless_nil
  · exact h.subset (List.dropLast_subset l)

theorem slashless_resolve {file : Bool} {path : List String} {l : List (List Char)}
    (hpath : Slashless path) (hl : ∀ s ∈ l, '/' ∉ s) : Slashless (resolve file path l) := by
  have hlast (r : List (List Char)) : Slashless (if r.isEmpty then [""] else []) := by
    split
    · exact slashless_singleton (by simp)
    · exact slashless_nil
  induction l generalizing path with
  | nil => exact hpath
  | cons s r ih =>
    have hr : ∀ s ∈ r, '/' ∉ s := fun x hx => hl x (List.mem_cons_of_mem _ hx)
    rw [resolve]
    split
    · exact ih ((slashless_goUp hpath).append (hlast r)) hr
    · split
      · exact ih (hpath.append (hlast r)) hr
      · refine ih (hpath.append (slashless_singleton ?_)) hr
        rw [String.toList_ofList]
        refine slash_not_mem_escape fun c hc _ hslash => ?_
        subst hslash
        split at hc
        · rcases List.mem_append.1 hc with hc | hc
          · exact hl s List.mem_cons_self (List.mem_of_mem_take hc)
          · simp at hc
        · exact hl s List.mem_cons_self hc

theorem slashless_readPath (scheme : String) (s : List Char) : Slashless (readPath scheme s) := by
  cases s with
  | nil =>
    have hpath : readPath scheme [] = if isSpecialScheme scheme then [""] else [] := rfl
    rw [hpath]
    split
    · exact slashless_singleton (by simp)
    · exact slashless_nil
  | cons c r =>
    refine slashless_resolve slashless_nil fun s hs hslash => ?_
    have hseparator := not_mem_splitBy hs '/' hslash
    simp [isSeparator] at hseparator

theorem isSpecialScheme_of_http {scheme : String} (h : scheme = "http" ∨ scheme = "https") :
    isSpecialScheme scheme = true ∧ scheme ≠ "file" := by
  rcases h with rfl | rfl <;> decide

/-- The base addresses of requests have a path of segments. -/
theorem exists_segments_of_read? {source : String} {u : Url} (h : read? source = some u)
    (hscheme : u.scheme = "http" ∨ u.scheme = "https") :
    ∃ l, u.path = .segments l ∧ Slashless l := by
  obtain ⟨hspecial, hfile⟩ := isSpecialScheme_of_http hscheme
  unfold read? at h
  simp only at h
  obtain ⟨⟨scheme, r⟩, -, h⟩ := Option.bind_eq_some_iff.1 h
  simp only at h
  split at h
  next hlocal =>
    obtain ⟨⟨host, path⟩, -, h⟩ := Option.bind_eq_some_iff.1 h
    cases h
    exact absurd hlocal hfile
  · split at h
    · obtain ⟨⟨username, password, host, number⟩, -, h⟩ := Option.bind_eq_some_iff.1 h
      cases h
      exact ⟨_, rfl, slashless_readPath _ _⟩
    next hother =>
      split at h
      · obtain ⟨⟨username, password, host, number⟩, -, h⟩ := Option.bind_eq_some_iff.1 h
        cases h
        exact absurd hspecial hother
      · cases h
        exact absurd hspecial hother
      · cases h
        exact absurd hspecial hother

end reading

/-- The segments of the path, as its text is divided at the slashes after the first one. -/
def pathSegments (u : Url) : List (List Char) := (splitAtChar '/' u.pathText.toList).tail

theorem splitAtChar_segments {a : List Char} {l : List String} (ha : '/' ∉ a)
    (hl : Slashless l) :
    splitAtChar '/' (a ++ l.flatMap fun s => '/' :: s.toList) = a :: l.map String.toList := by
  induction l generalizing a with
  | nil => simpa using splitAtChar_of_not_mem ha
  | cons s l ih =>
    obtain ⟨hs, hl⟩ := List.forall_mem_cons.1 hl
    rw [List.flatMap_cons, List.cons_append, splitAtChar_append ha, ih hs hl, List.map_cons]

theorem pathSegments_eq {u : Url} {l : List String} (hpath : u.path = .segments l)
    (hl : Slashless l) : u.pathSegments = l.map String.toList := by
  have htext : u.pathText.toList = l.flatMap fun s => '/' :: s.toList := by
    unfold pathText
    rw [hpath, String.toList_join, List.flatMap_map]
    simp
  have hsplit := splitAtChar_segments (a := []) List.not_mem_nil hl
  rw [List.nil_append] at hsplit
  rw [pathSegments, htext, hsplit, List.tail_cons]

/-- The segments that are not empty. -/
def filled (l : List String) : List String := l.filter (· ≠ "")

theorem filled_dropEmptyLast (l : List String) : filled (dropEmptyLast l) = filled l := by
  unfold dropEmptyLast
  split
  next h =>
    obtain ⟨front, rfl⟩ := List.getLast?_eq_some_iff.1 h.2
    simp [filled]
  · rfl

/-- A table is added as one more segment, whatever its name. -/
theorem addSegment_eq (special : Bool) (l : List String) {table : String}
    (hdot : table ≠ ".") (hdots : table ≠ "..")
    (hkept : ∀ c ∈ table.toList, isDropped c = false) :
    ∃ front, addSegment special l table =
        front ++ [String.ofList (escape (isSegmentEscaped special) table.toList)] ∧
      filled front = filled l ∧ front ⊆ l := by
  have hall : table.toList.filter (fun c => !isDropped c) = table.toList :=
    List.filter_eq_self.2 fun c hc => by simp [hkept c hc]
  have hone : table.toList ≠ ['.'] := fun h => hdot (String.toList_inj.1 (h.trans rfl))
  have htwo : table.toList ≠ ['.', '.'] := fun h => hdots (String.toList_inj.1 (h.trans rfl))
  refine ⟨if l = [""] then [] else l, ?_, ?_, ?_⟩
  · unfold addSegment
    simp only [hall, hdot, hdots, hone, htwo, or_self, if_false]
  · split
    next h => simp [h, filled]
    · rfl
  · split
    · exact List.nil_subset l
    · exact List.Subset.refl l

theorem map_filled (l : List String) :
    (filled l).map String.toList = (l.map String.toList).filter (· ≠ []) := by
  rw [filled, List.filter_map]
  congr 1
  refine List.filter_congr fun s _ => ?_
  simp

theorem ofTable?_eq {base : Url} {l : List String} (hpath : base.path = .segments l)
    (hfile : base.scheme ≠ "file") (table : String) (pairs : List (String × String)) :
    base.ofTable? table pairs = some { base with
      path := .segments (addSegment base.isSpecial (dropEmptyLast l) table)
      query := if pairs = [] then none else some (String.ofList (formPairs pairs)) } := by
  unfold ofTable?
  rw [hpath]
  simp only [hfile, if_false]

theorem subset_dropEmptyLast (l : List String) : dropEmptyLast l ⊆ l := by
  unfold dropEmptyLast
  split
  · exact List.dropLast_subset l
  · exact List.Subset.refl l

/-- The address of a table below a base address differs from it in path and query only. The query is
that of the pairs, in their order, and there is none without pairs. The last segment of the path is
the table, and before it are those of the base address, but for empty ones. -/
theorem tableUrl_readBack {source : String} {base : Url} (hread : read? source = some base)
    (hscheme : base.scheme = "http" ∨ base.scheme = "https") {table : String}
    (hdot : table ≠ ".") (hdots : table ≠ "..")
    (hkept : ∀ c ∈ table.toList, c ≠ '\t' ∧ c ≠ '\n' ∧ c ≠ '\r') (q : QueryString) :
    ∃ u, Endpoint.tableUrl base table q = .ok u ∧
      u = { base with path := u.path, query := u.query } ∧
      (u.query = none ↔ q.pairs = []) ∧
      (∀ text, u.query = some text → pairs? text.toList = some q.pairs) ∧
      ∃ front last, u.pathSegments = front ++ [last] ∧ decoded? last = some table ∧
        front.filter (· ≠ []) = base.pathSegments.filter (· ≠ []) := by
  obtain ⟨l, hpath, hl⟩ := exists_segments_of_read? hread hscheme
  have hfile : base.scheme ≠ "file" := (isSpecialScheme_of_http hscheme).2
  obtain ⟨front, hadd, hfilled, hfront⟩ :=
    addSegment_eq base.isSpecial (dropEmptyLast l) hdot hdots fun c hc => by
      simp [isDropped, hkept c hc]
  have htable := ofTable?_eq hpath hfile table q.pairs
  rw [hadd] at htable
  refine ⟨_, by rw [Endpoint.tableUrl, htable], rfl, ?_, ?_, ?_⟩
  · simp
  · intro text htext
    by_cases hpairs : q.pairs = []
    · simp [hpairs] at htext
    · simp only [hpairs, if_false, Option.some.injEq] at htext
      rw [← htext, String.toList_ofList]
      exact pairs?_formPairs hpairs
  · have hsegment : '/' ∉ escape (isSegmentEscaped base.isSpecial) table.toList :=
      slash_not_mem_escape fun c _ hc hslash => by
        subst hslash
        simp [isSegmentEscaped] at hc
    have hslashless : Slashless
        (front ++ [String.ofList (escape (isSegmentEscaped base.isSpecial) table.toList)]) :=
      (hl.subset (List.Subset.trans hfront (subset_dropEmptyLast l))).append
        (slashless_singleton (by rwa [String.toList_ofList]))
    refine ⟨front.map String.toList, escape (isSegmentEscaped base.isSpecial) table.toList, ?_, ?_,
      ?_⟩
    · rw [pathSegments_eq rfl hslashless]
      simp
    · rw [decoded?_escape (by simp [isSegmentEscaped]), String.ofList_toList]
    · rw [pathSegments_eq hpath hl, ← map_filled, ← map_filled, hfilled, filled_dropEmptyLast]

/-- An address with empty segments and a query of its own. -/
def warehouse : Url :=
  ⟨"https", "", "", some (.name "db.example"), some 8443, .segments ["rest", "", "v1", ""],
    some "old=1", some "top"⟩

/-- A table and a pair with everything in them that divides an address. -/
theorem tableUrl_readBack_warehouse :
    (read? "https://db.example:8443/rest//v1/?old=1#top" = some warehouse ∧
      ("50% a/b?é#" ≠ "." ∧ "50% a/b?é#" ≠ "..") ∧
      ∀ c ∈ "50% a/b?é#".toList, c ≠ '\t' ∧ c ≠ '\n' ∧ c ≠ '\r') ∧
    ∃ u, Endpoint.tableUrl warehouse "50% a/b?é#" ⟨[("a&b", "c=d e+ö%"), ("", "")]⟩ = .ok u ∧
      u.fragment = some "top" ∧
      (∀ text, u.query = some text →
        pairs? text.toList = some [("a&b", "c=d e+ö%"), ("", "")]) ∧
      ∃ front last, u.pathSegments = front ++ [last] ∧ decoded? last = some "50% a/b?é#" ∧
        front.filter (· ≠ []) = ["rest".toList, "v1".toList] := by
  have hread : read? "https://db.example:8443/rest//v1/?old=1#top" = some warehouse := by
    decide +kernel
  have hdot : "50% a/b?é#" ≠ "." := by decide
  have hdots : "50% a/b?é#" ≠ ".." := by decide
  have hkept : ∀ c ∈ "50% a/b?é#".toList, c ≠ '\t' ∧ c ≠ '\n' ∧ c ≠ '\r' := by simp
  have hsegments : warehouse.pathSegments.filter (· ≠ []) = ["rest".toList, "v1".toList] := by
    decide +kernel
  obtain ⟨u, hu, hbase, -, hpairs, front, last, hpath, hlast, hfront⟩ :=
    tableUrl_readBack hread (.inr rfl) hdot hdots hkept ⟨[("a&b", "c=d e+ö%"), ("", "")]⟩
  refine ⟨⟨hread, ⟨hdot, hdots⟩, hkept⟩, u, hu, ?_, hpairs, front, last, hpath, hlast,
    hfront.trans hsegments⟩
  rw [hbase]
  rfl

end RemoteTable.Url
