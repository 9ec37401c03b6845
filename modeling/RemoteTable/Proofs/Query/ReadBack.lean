import Mathlib
import RemoteTable.Proofs.Outcome
import RemoteTable.Proofs.Query.Division
import RemoteTable.Proofs.Text.Digits

/-!
A query string says what its query says. Every filter can be read off its pair or its branch with
the text of its operand as it was, whatever that text holds, if the names of the columns hold no
punctuation and no filter takes the key of another clause.
-/

namespace RemoteTable

open Clauses

/-- What a test compares with, by a value for its operand; a value that is no list is one item. -/
def ColumnTest.clauseOperand : ColumnTest → Value → ClauseOperand
  | .oneOf, .list l => .items (l.map Value.wireText)
  | .oneOf, v => .items [v.wireText]
  | _, v => .text v.wireText

namespace Filter

/-- What a filter says with a value for its operand. An equality with null is a test for null. -/
def clause (f : Filter) (v : Value) : FilterClause :=
  match f.op, v with
  | .compare .eq, .null => ⟨f.column, f.negated, .is, .text "null"⟩
  | .compare .ne, .null => ⟨f.column, !f.negated, .is, .text "null"⟩
  | op, v => ⟨f.column, f.negated, op, op.clauseOperand v⟩

def clauseIn (bag : Bag) (f : Filter) : Except Fault FilterClause :=
  (f.operand.valueIn bag).map f.clause

end Filter

def RowCount.number (bag : Bag) : Option RowCount → Except Fault (Option Nat)
  | none => .ok none
  | some b => (b.valueIn bag).map fun n => some n.toNat

/-- What a query says, with values for its parameters. -/
def Query.clauses (bag : Bag) (q : Query) : Except Fault Clauses := do
  let filters ← q.conditions.filters.mapM (Filter.clauseIn bag)
  let groups ← q.conditions.groups.mapM (List.mapM (Filter.clauseIn bag))
  let offset ← RowCount.number bag q.offset
  let limit ← RowCount.number bag q.limit
  .ok ⟨q.select, filters, groups, q.order, offset, limit⟩

/-- Names without punctuation. -/
def IsWord (name : String) : Prop := ∀ c ∈ name.toList, Value.isDelimiter c = false

instance (name : String) : Decidable (IsWord name) :=
  List.decidableBAll (fun c => Value.isDelimiter c = false) name.toList

/-- The columns of a query have names without punctuation, and none is the key of another clause
where it would be taken for it. -/
structure Query.Plain (q : Query) : Prop where
  select : ∀ c ∈ q.select, IsWord c
  filters : ∀ f ∈ q.conditions.filters, f.column ∉ reserved
  groups : ∀ g ∈ q.conditions.groups, ∀ f ∈ g, IsWord f.column
  order : ∀ k ∈ q.order, IsWord k.column

variable {bag : Bag} {f : Filter} {v : Value}

namespace Filter

theorem clause_eq_effective (f : Filter) (v : Value) : f.clause v =
    ⟨f.column, (f.effective v).2, (f.effective v).1, (f.effective v).1.clauseOperand v⟩ := by
  obtain ⟨column, op, negated, operand⟩ := f
  cases op with
  | compare c => cases c <;> cases v <;> rfl
  | _ => rfl

/-- The operand of a test is a list, or the text of a value; in a group that is an item. -/
theorem operandText_eq_ok {column : String} {grouped : Bool} {op : ColumnTest} {text : String}
    (h : operandText column grouped op v = .ok text) :
    op = .oneOf ∧ text = v.listText ∨
      op ≠ .oneOf ∧ text = if grouped then v.itemText else v.wireText := by
  have hscalar : ∀ {op : ColumnTest}, op ≠ .oneOf →
      (if v.isList then .error (.listOperand column)
        else .ok (if grouped then v.itemText else v.wireText)) = Except.ok (ε := Fault) text →
      op = .oneOf ∧ text = v.listText ∨
        op ≠ .oneOf ∧ text = if grouped then v.itemText else v.wireText := by
    intro op hop h
    split at h
    next => cases h
    next => exact .inr ⟨hop, (Except.ok.inj h).symm⟩
  cases op with
  | oneOf => exact .inl ⟨rfl, (Except.ok.inj h).symm⟩
  | is =>
    -- null and the truth values are items without quotes
    refine .inr ⟨by simp, ?_⟩
    cases v with
    | null => cases grouped <;> exact (Except.ok.inj h).symm
    | bool b => cases b <;> cases grouped <;> exact (Except.ok.inj h).symm
    | _ => cases h
  | compare c => exact hscalar (by simp) h
  | like => exact hscalar (by simp) h
  | ilike => exact hscalar (by simp) h

/-- A segment is a test by its name, with its operand. -/
theorem segment_eq_ok {grouped : Bool} {s : String} (h : f.segment bag grouped = .ok s) :
    ∃ v text, f.operand.valueIn bag = .ok v ∧
      operandText f.column grouped (f.effective v).1 v = .ok text ∧
      s.toList = (if (f.effective v).2 then "not".toList ++ ['.'] else []) ++
        ((f.effective v).1.label.toList ++ '.' :: text.toList) := by
  obtain ⟨v, hv, h⟩ := Except.bind_eq_ok.1 h
  rcases htest : f.effective v with ⟨op, negated⟩
  rw [htest] at h
  obtain ⟨text, htext, h⟩ := Except.bind_eq_ok.1 h
  refine ⟨v, text, hv, by rwa [htest], ?_⟩
  rw [← Except.ok.inj h, htest]
  cases negated <;> simp

end Filter

namespace Clauses

theorem toList_listText (v : Value) :
    ∃ l : List (List Char),
      v.listText.toList = '(' :: Value.joinItems (l.map Value.quoteItem) ++ [')'] ∧
      ColumnTest.oneOf.clauseOperand v = .items (l.map String.ofList) := by
  cases v with
  | list items =>
    refine ⟨items.map Value.chars, ?_, ?_⟩
    · simp [Value.listText, itemsChars_eq_map, Function.comp_def]
    · simp [ColumnTest.clauseOperand, Value.wireText, Function.comp_def]
  | _ => exact ⟨[_], by simp [Value.listText, Value.joinItems], rfl⟩

/-- The operand of a test is read as it was. -/
theorem operand_readBack {column : String} {grouped : Bool} {op : ColumnTest} {text : String}
    (h : Filter.operandText column grouped op v = .ok text) :
    operand? grouped op text.toList = some (op.clauseOperand v) := by
  rcases Filter.operandText_eq_ok h with ⟨rfl, rfl⟩ | ⟨hop, rfl⟩
  · obtain ⟨l, htext, hoperand⟩ := toList_listText v
    rw [operand?, if_pos rfl, htext, hoperand, items_readBack, Option.map_some]
  · have hoperand : op.clauseOperand v = .text v.wireText := by
      cases op with
      | oneOf => exact absurd rfl hop
      | _ => rfl
    rw [operand?, if_neg hop, hoperand]
    cases grouped <;> simp [Value.itemText, Value.wireText, itemText?_quoteItem]

theorem isWord_label (op : ColumnTest) : IsWord op.label := by
  cases op with
  | compare c => cases c <;> decide
  | _ => decide

theorem dot_not_mem {s : List Char} (h : ∀ c ∈ s, Value.isDelimiter c = false) : '.' ∉ s :=
  fun hc => absurd (h '.' hc) (by decide)

theorem label_ne_not (op : ColumnTest) : op.label.toList ≠ ['n', 'o', 't'] := by
  cases op with
  | compare c => cases c <;> decide
  | _ => decide

/-- What a filter says about its column is read as it was. -/
theorem segment_readBack {grouped : Bool} {s : String} (h : f.segment bag grouped = .ok s) :
    ∃ c, f.clauseIn bag = .ok c ∧ segment? grouped f.column s.toList = some c := by
  obtain ⟨v, text, hv, htext, hs⟩ := Filter.segment_eq_ok h
  refine ⟨f.clause v, by rw [Filter.clauseIn, hv]; rfl, ?_⟩
  have hlabel := atDot?_append (r := text.toList)
    (dot_not_mem (isWord_label (f.effective v).1))
  have htest : ∀ negated, test? grouped f.column negated (f.effective v).1.label.toList text.toList =
      some ⟨f.column, negated, (f.effective v).1, (f.effective v).1.clauseOperand v⟩ := by
    intro negated
    simp [test?, ColumnTest.ofLabel?_label, operand_readBack htext]
  rw [Filter.clause_eq_effective, hs, segment?]
  cases hnegated : (f.effective v).2 with
  | false => simp [hlabel, label_ne_not, htest]
  | true =>
    have hnot := atDot?_append (s := "not".toList)
      (r := (f.effective v).1.label.toList ++ '.' :: text.toList) (by decide)
    rw [if_pos rfl, List.append_assoc, List.singleton_append, hnot]
    simp [hlabel, htest]

/-- A filter that is a clause of its own is read back. -/
theorem enter_pair {p : String × String} (h : f.pair bag = .ok p) (hf : f.column ∉ reserved) :
    ∃ c, f.clauseIn bag = .ok c ∧
      ∀ a, enter a p = some { a with filters := a.filters ++ [c] } := by
  obtain ⟨s, hs, rfl⟩ := Except.map_eq_ok.1 h
  obtain ⟨c, hc, hread⟩ := segment_readBack hs
  refine ⟨c, hc, fun a => ?_⟩
  rw [enter_column a hf, hread, Option.map_some]

theorem passes_dot {d : Nat} : Passes true ⟨.outside, d⟩ ⟨.outside, d⟩ ['.'] := by
  refine .cons (by simp) ?_
  simpa [Place.next] using passes_nil

/-- A branch of a group is passed over. -/
theorem passes_branch {s : String} (h : f.branch bag = .ok s) (hf : IsWord f.column) :
    Passes true .top .top s.toList := by
  obtain ⟨segment, hsegment, rfl⟩ := Except.map_eq_ok.1 h
  obtain ⟨v, text, _, htext, hs⟩ := Filter.segment_eq_ok hsegment
  have hoperand : Passes true .top .top text.toList := by
    rcases Filter.operandText_eq_ok htext with ⟨_, rfl⟩ | ⟨_, rfl⟩
    · obtain ⟨l, hl, _⟩ := toList_listText v
      rw [hl]
      exact passes_list l
    · rw [if_pos rfl, Value.itemText, String.toList_ofList]
      exact passes_quoteItem v.chars
  have htest : Passes true .top .top ((f.effective v).1.label.toList ++ '.' :: text.toList) :=
    (passes_plain (isWord_label _)).append (passes_dot.append hoperand)
  have hcolumn : Passes true .top .top (f.column.toList ++ ['.']) :=
    (passes_plain hf).append passes_dot
  rw [String.toList_append, String.toList_append, hs]
  refine hcolumn.append ?_
  cases (f.effective v).2 with
  | false => exact htest
  | true =>
    have hnot : IsWord "not" := by decide
    exact ((passes_plain hnot).append passes_dot).append htest

theorem branch_readBack {s : String} (h : f.branch bag = .ok s) (hf : IsWord f.column) :
    ∃ c, f.clauseIn bag = .ok c ∧ branch? s.toList = some c := by
  obtain ⟨segment, hsegment, rfl⟩ := Except.map_eq_ok.1 h
  obtain ⟨c, hc, hread⟩ := segment_readBack hsegment
  refine ⟨c, hc, ?_⟩
  have hdot := atDot?_append (r := segment.toList) (dot_not_mem hf)
  simp [branch?, hdot, hread]

/-- The branches of a group are read back, and their joined text can be divided into them. -/
theorem branches_readBack {g : List Filter} {l : List String}
    (h : List.Forall₂ (fun f s => f.branch bag = .ok s) g l) (hg : ∀ f ∈ g, IsWord f.column) :
    (∀ s ∈ l.map String.toList, Passes true .top .top s ∧ s ≠ []) ∧
      ∃ cs, g.mapM (Filter.clauseIn bag) = .ok cs ∧
        (l.map String.toList).mapM branch? = some cs := by
  induction h with
  | nil => exact ⟨by simp, [], rfl, rfl⟩
  | @cons f s g l hs _ ih =>
    have hf : IsWord f.column := hg f List.mem_cons_self
    obtain ⟨hpass, cs, hcs, hreads⟩ := ih fun f hf => hg f (List.mem_cons_of_mem _ hf)
    obtain ⟨c, hc, hread⟩ := branch_readBack hs hf
    refine ⟨?_, c :: cs, ?_, by simp [hread, hreads]⟩
    · rw [List.map_cons]
      refine List.forall_mem_cons.2 ⟨⟨passes_branch hs hf, fun hnil => ?_⟩, hpass⟩
      simp [hnil, branch?, atDot?] at hread
    · rw [Except.mapM_eq_ok] at hcs ⊢
      exact .cons hc hcs

/-- A group is read back, branch by branch. -/
theorem enter_groupPair {g : List Filter} {p : String × String}
    (h : Filter.groupPair bag g = .ok p) (hg : ∀ f ∈ g, IsWord f.column) :
    ∃ cs, g.mapM (Filter.clauseIn bag) = .ok cs ∧
      ∀ a, enter a p = some { a with groups := a.groups ++ [cs] } := by
  obtain ⟨l, hl, rfl⟩ := Except.map_eq_ok.1 h
  obtain ⟨hpass, cs, hcs, hread⟩ := branches_readBack (Except.mapM_eq_ok.1 hl) hg
  have htext : ("(" ++ ",".intercalate l ++ ")").toList =
      '(' :: Value.joinItems (l.map String.toList) ++ [')'] := by
    simp [joinItems_eq_intercalate, String.toList_intercalate]
  have hgroup : group? ("(" ++ ",".intercalate l ++ ")").toList = some cs := by
    rw [htext, group?, parts?_joinItems (fun s hs => (hpass s hs).2) fun s hs => (hpass s hs).1,
      Option.bind_some, hread]
  exact ⟨cs, hcs, fun a => by rw [enter_or, hgroup, Option.map_some]⟩

theorem filters_readBack {fs : List Filter} {pairs : List (String × String)}
    (h : List.Forall₂ (fun f p => f.pair bag = .ok p) fs pairs)
    (hfs : ∀ f ∈ fs, f.column ∉ reserved) :
    ∃ cs, fs.mapM (Filter.clauseIn bag) = .ok cs ∧
      ∀ a, pairs.foldlM enter a = some { a with filters := a.filters ++ cs } := by
  induction h with
  | nil => exact ⟨[], rfl, fun a => by simp⟩
  | @cons f p fs pairs hp _ ih =>
    obtain ⟨c, hc, henter⟩ := enter_pair hp (hfs f List.mem_cons_self)
    obtain ⟨cs, hcs, henters⟩ := ih fun f hf => hfs f (List.mem_cons_of_mem _ hf)
    refine ⟨c :: cs, ?_, fun a => by simp [henter, henters]⟩
    rw [Except.mapM_eq_ok] at hcs ⊢
    exact .cons hc hcs

theorem groups_readBack {gs : List (List Filter)} {pairs : List (String × String)}
    (h : List.Forall₂ (fun g p => Filter.groupPair bag g = .ok p) gs pairs)
    (hgs : ∀ g ∈ gs, ∀ f ∈ g, IsWord f.column) :
    ∃ css, gs.mapM (List.mapM (Filter.clauseIn bag)) = .ok css ∧
      ∀ a, pairs.foldlM enter a = some { a with groups := a.groups ++ css } := by
  induction h with
  | nil => exact ⟨[], rfl, fun a => by simp⟩
  | @cons g p gs pairs hp _ ih =>
    obtain ⟨cs, hcs, henter⟩ := enter_groupPair hp (hgs g List.mem_cons_self)
    obtain ⟨css, hcss, henters⟩ := ih fun g hg => hgs g (List.mem_cons_of_mem _ hg)
    refine ⟨cs :: css, ?_, fun a => by simp [henter, henters]⟩
    rw [Except.mapM_eq_ok] at hcss ⊢
    exact .cons hcs hcss

theorem splitOn_intercalate {l : List String} (hl : l ≠ []) (h : ∀ s ∈ l, ',' ∉ s.toList) :
    (",".intercalate l).toList.splitOn ',' = l.map String.toList := by
  rw [String.toList_intercalate]
  refine List.splitOn_intercalate ',' ?_ (by simpa using hl)
  simpa using h

theorem comma_not_mem {name : String} (h : IsWord name) : ',' ∉ name.toList :=
  fun hc => absurd (h ',' hc) (by decide)

theorem select_readBack {q : Query} (h : ∀ c ∈ q.select, IsWord c) :
    q.selectPairs.foldlM enter empty = some { empty with select := q.select } := by
  unfold Query.selectPairs
  split
  next hnil => simp [List.isEmpty_iff.1 hnil, empty]
  next hne =>
    have hl : q.select ≠ [] := by simpa using hne
    have hsplit := splitOn_intercalate hl fun c hc => comma_not_mem (h c hc)
    rw [List.foldlM_cons, enter_select, hsplit]
    simp [Function.comp_def]

theorem sortKey?_text {k : SortKey} (h : IsWord k.column) : sortKey? k.text.toList = some k := by
  obtain ⟨column, direction⟩ := k
  have hdot := fun r => atDot?_append (r := r) (dot_not_mem h)
  cases direction <;> simp [SortKey.text, Direction.label, sortKey?, hdot]

theorem comma_not_mem_text {k : SortKey} (h : IsWord k.column) : ',' ∉ k.text.toList := by
  have hcolumn := comma_not_mem h
  obtain ⟨column, direction⟩ := k
  cases direction <;> simp [SortKey.text, Direction.label, hcolumn]

theorem order_readBack {q : Query} (h : ∀ k ∈ q.order, IsWord k.column) (a : Clauses)
    (ha : a.order = []) :
    q.orderPairs.foldlM enter a = some { a with order := q.order } := by
  unfold Query.orderPairs
  split
  next hnil => simp [List.isEmpty_iff.1 hnil, ← ha]
  next hne =>
    have hl : q.order.map SortKey.text ≠ [] := by simpa using hne
    have hsplit : (",".intercalate (q.order.map SortKey.text)).toList.splitOn ',' =
        (q.order.map SortKey.text).map String.toList := by
      refine splitOn_intercalate hl fun s hs => ?_
      obtain ⟨k, hk, rfl⟩ := List.mem_map.1 hs
      exact comma_not_mem_text (h k hk)
    have hread : ((q.order.map SortKey.text).map String.toList).mapM sortKey? = some q.order := by
      generalize q.order = l at h
      induction l with
      | nil => rfl
      | cons k l ih =>
        have hk := sortKey?_text (h k List.mem_cons_self)
        simp_all
    rw [List.foldlM_cons, enter_order, hsplit, hread]
    rfl

/-- A page bound is read back by whatever enters the number under its key. -/
theorem bound_readBack {key : String} {b : Option RowCount} {pairs : List (String × String)}
    (put : Clauses → Option Nat → Clauses)
    (hput : ∀ a value, enter a (key, value) =
      (Text.natural? value.toList).map fun n => put a (some n))
    (h : RowCount.pair bag key b = .ok pairs) :
    ∃ n, RowCount.number bag b = .ok n ∧
      ∀ a, put a none = a → pairs.foldlM enter a = some (put a n) := by
  cases b with
  | none =>
    obtain rfl := Except.ok.inj h
    exact ⟨none, rfl, fun a ha => by rw [ha]; rfl⟩
  | some b =>
    obtain ⟨n, hn, rfl⟩ := Except.map_eq_ok.1 h
    refine ⟨some n.toNat, by rw [RowCount.number, hn]; rfl, fun a _ => ?_⟩
    rw [List.foldlM_cons, hput, String.toList_ofList, Text.natural?_digits]
    rfl

/-- What is read from the query string of a query is what the query says. -/
theorem ofPairs?_queryString {q : Query} {qs : QueryString} (hq : q.Plain)
    (h : q.queryString bag = .ok qs) :
    ∃ c, q.clauses bag = .ok c ∧ ofPairs? qs.pairs = some c := by
  obtain ⟨filters, hfilters, h⟩ := Except.bind_eq_ok.1 h
  obtain ⟨groups, hgroups, h⟩ := Except.bind_eq_ok.1 h
  obtain ⟨offset, hoffset, h⟩ := Except.bind_eq_ok.1 h
  obtain ⟨limit, hlimit, h⟩ := Except.bind_eq_ok.1 h
  obtain rfl := Except.ok.inj h
  obtain ⟨cs, hcs, hreadFilters⟩ := filters_readBack (Except.mapM_eq_ok.1 hfilters) hq.filters
  obtain ⟨css, hcss, hreadGroups⟩ := groups_readBack (Except.mapM_eq_ok.1 hgroups) hq.groups
  obtain ⟨o, ho, hreadOffset⟩ :=
    bound_readBack (fun a n => { a with offset := n }) enter_offset hoffset
  obtain ⟨l, hl, hreadLimit⟩ :=
    bound_readBack (fun a n => { a with limit := n }) enter_limit hlimit
  refine ⟨⟨q.select, cs, css, q.order, o, l⟩, ?_, ?_⟩
  · simp [Query.clauses, hcs, hcss, ho, hl, bind, Except.bind]
  · rw [ofPairs?]
    simp only [List.foldlM_append, select_readBack hq.select, Option.bind_eq_bind, Option.bind_some,
      hreadFilters, hreadGroups]
    rw [order_readBack hq.order _ rfl, Option.bind_some, hreadOffset _ rfl, Option.bind_some,
      hreadLimit _ rfl]
    rfl

/-- A filter that asks for rows without an address. -/
def unaddressed : Query :=
  { Query.ofTable "people" with
    conditions := ⟨[⟨"email", .compare .eq, false, .literal .null⟩], []⟩ }

/-- An equality with null is not read back as an equality: it goes out as the test for null. -/
theorem ofPairs?_unaddressed : unaddressed.Plain ∧
    ∃ qs c, unaddressed.queryString .empty = .ok qs ∧ ofPairs? qs.pairs = some c ∧
      c.filters.map FilterClause.op ≠ unaddressed.conditions.filters.map Filter.op := by
  refine ⟨⟨by decide, by decide, by decide, by decide⟩, ⟨[("email", "is.null")]⟩,
    { empty with filters := [⟨"email", false, .is, .text "null"⟩] }, ?_, ?_, ?_⟩
  · cbv
  · cbv
  · decide

/-- Posts with texts full of punctuation, some tags and an author or none. -/
def mentions : Query :=
  ⟨"posts",
    ⟨[⟨"author", .compare .ne, true, .param "author"⟩,
        ⟨"tag", .oneOf, false, .literal (.list [.text "a,b", .text "", .text "\")"])⟩],
      [[⟨"body", .like, true, .literal (.text "*\"x\", (y)\\*")⟩,
        ⟨"tag", .oneOf, false, .literal (.list [.list [.int 1, .text "("], .null])⟩]]⟩,
    ["id", "body"], [⟨"created_at", .desc⟩], some (.param "seen"), some (.known 5)⟩

def mentionsBag : Bag := .ofList [("author", .null), ("seen", .int 20)]

def mentionsString : QueryString :=
  ⟨[("select", "id,body"), ("author", "is.null"), ("tag", "in.(\"a,b\",\"\",\"\\\")\")"),
    ("or", "(body.not.like.\"*\\\"x\\\", (y)\\\\*\",tag.in.(\"(1,\\\"(\\\")\",null))"),
    ("order", "created_at.desc"), ("offset", "20"), ("limit", "5")]⟩

theorem ofPairs?_mentionsString : mentions.Plain ∧
    mentions.queryString mentionsBag = .ok mentionsString ∧
    ∃ c, mentions.clauses mentionsBag = .ok c ∧ ofPairs? mentionsString.pairs = some c := by
  have hplain : mentions.Plain := ⟨by decide, by decide, by decide, by decide⟩
  have hs : mentions.queryString mentionsBag = .ok mentionsString := by cbv
  exact ⟨hplain, hs, ofPairs?_queryString hplain hs⟩

end Clauses

end RemoteTable
