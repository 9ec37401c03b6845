import Mathlib
import RemoteTable.Proofs.Query.Page
import RemoteTable.Proofs.Query.Translation

/-!
A query answers what its operators answer one after another. Between two operators a host holds the
answer of the query so far; as long as nothing is cut off, its rows stand in groups of the order.
-/

namespace RemoteTable

variable {k : Tests} {c : Collation} {bag : Bag} {m : Entity} {rows : List TableRow}

theorem Direction.lawful_le (c : Collation) (d : Direction) : Ranking.Lawful (d.le c) := by
  cases d with
  | asc => exact c.lawful
  | desc =>
    exact ⟨fun x y z hxy hyz => c.lawful.trans z y x hyz hxy, fun x y => c.lawful.total y x⟩

namespace SortKey

theorem lawful_le (c : Collation) (key : SortKey) : Ranking.Lawful (key.le c) := by
  have h := key.direction.lawful_le c
  exact ⟨fun _ _ _ => h.trans _ _ _, fun _ _ => h.total _ _⟩

theorem lawful_allLe (c : Collation) (keys : List SortKey) : Ranking.Lawful (allLe c keys) := by
  induction keys with
  | nil => exact ⟨fun _ _ _ _ _ => rfl, fun _ _ => rfl⟩
  | cons key keys ih => exact (lawful_le c key).refined ih

/-- Without keys all rows tie. -/
theorem mergeSort_allLe_nil (c : Collation) (l : List TableRow) : l.mergeSort (allLe c []) = l :=
  List.mergeSort_of_pairwise (List.pairwise_of_forall fun _ _ => rfl)

theorem grouped_allLe_nil (c : Collation) (l : List TableRow) :
    Ranking.Grouped (allLe c []) [l] :=
  ⟨fun _ _ _ _ _ _ => rfl, List.pairwise_singleton _ _⟩

theorem allLe_concat (c : Collation) (keys : List SortKey) (key : SortKey) :
    allLe c (keys ++ [key]) = Ranking.refined (allLe c keys) (key.le c) := by
  induction keys with
  | nil =>
    funext a b
    simp [allLe, Ranking.refined]
  | cons first keys ih => rw [List.cons_append, allLe, ih, Ranking.refined_assoc, allLe]

end SortKey

theorem keyLe_of_keyColumn {key : Expr} {column : String} (d : Direction)
    (h : Pipeline.keyColumn m key = .ok column) :
    Stage.keyLe c bag m key d = SortKey.le c ⟨column, d⟩ := by
  unfold Pipeline.keyColumn at h
  split at h
  next p hp =>
    funext a b
    simp only [Stage.keyLe, Predicate.value?_of_stripped hp, Predicate.value?_column h, SortKey.le,
      Option.getD_some]
  next => simp at h

theorem filter_pass_append (a b : Conditions) :
    rows.filter ((a ++ b).pass k bag) = (rows.filter (a.pass k bag)).filter (b.pass k bag) := by
  rw [List.filter_filter]
  refine List.filter_congr fun row _ => ?_
  rw [Predicate.pass_append, Bool.and_comm]

namespace Pipeline

theorem projection_of_prepare {p : Projection} {prepared : PreparedProjection}
    (h : p.prepare m = .ok prepared) : prepared.projection = p := by
  obtain ⟨reads, _, h⟩ := Except.bind_eq_ok.1 h
  split at h <;> obtain rfl := Except.ok.inj h <;> rfl

/-- A host that has taken the operators of a query holds its answer, in groups of its order while
nothing is cut off. -/
inductive Agrees (k : Tests) (c : Collation) (bag : Bag) (m : Entity) (rows : List TableRow) :
    Pipeline → Stage → Prop where
  | rows {q : Query} {arrived : List TableRow} {groups : List (List TableRow)}
      (hanswer : q.rowsOf k c bag rows = .ok groups.flatten)
      (hgroups : q.Unpaged → arrived = rows.filter (q.conditions.pass k bag) ∧
        Ranking.Grouped (SortKey.allLe c q.order) groups) :
      Agrees k c bag m rows ⟨m, q, none⟩ (.rows arrived groups)
  | shapes {q : Query} {p : PreparedProjection} {l : List TableRow}
      (hanswer : q.rowsOf k c bag rows = .ok l) :
      Agrees k c bag m rows ⟨m, q, some p⟩
        (.shapes (l.map fun row => p.projection.shape (m.rowOf row) bag))

theorem agrees_start : Agrees k c bag m rows (start m) (.rows rows [rows]) := by
  have hall : rows.filter (Conditions.empty.pass k bag) = rows :=
    List.filter_eq_self.2 fun row _ => rfl
  have hunpaged : (Query.ofTable m.table).Unpaged := ⟨rfl, rfl⟩
  refine .rows ?_ fun _ => ⟨hall.symm, SortKey.grouped_allLe_nil c rows⟩
  rw [Query.rowsOf_of_unpaged hunpaged, Query.sorted]
  simp only [Query.ofTable, hall, SortKey.mergeSort_allLe_nil]
  simp

/-- The groups of a query under another key, with the rows in its order. -/
theorem Agrees.refine {q : Query} {groups : List (List TableRow)} (keys : List SortKey)
    (key : SortKey) (hunpaged : q.Unpaged)
    (hsorted : groups.flatten =
      (rows.filter (q.conditions.pass k bag)).mergeSort (SortKey.allLe c keys))
    (hgroups : Ranking.Grouped (SortKey.allLe c keys) groups) :
    Agrees k c bag m rows ⟨m, { q with order := keys ++ [key] }, none⟩
      (.rows (rows.filter (q.conditions.pass k bag)) (Ranking.refine (key.le c) groups)) := by
  have hkeys := SortKey.lawful_allLe c keys
  have hkey := SortKey.lawful_le c key
  have hunpaged' : Query.Unpaged { q with order := keys ++ [key] } := hunpaged
  refine .rows ?_ fun _ => ⟨rfl, ?_⟩
  · rw [Query.rowsOf_of_unpaged hunpaged', Query.sorted, SortKey.allLe_concat,
      Ranking.refine_eq_mergeSort hkeys hkey hgroups hsorted]
  · rw [SortKey.allLe_concat]
    exact Ranking.grouped_refine hkey hgroups

section

variable {q : Query} {arrived : List TableRow} {groups : List (List TableRow)}

theorem Agrees.of_unpaged (h : Agrees k c bag m rows ⟨m, q, none⟩ (.rows arrived groups))
    (hunpaged : q.Unpaged) : arrived = rows.filter (q.conditions.pass k bag) ∧
      groups.flatten = q.sorted k c bag rows ∧
      Ranking.Grouped (SortKey.allLe c q.order) groups := by
  cases h with
  | rows hanswer hgroups =>
    rw [Query.rowsOf_of_unpaged hunpaged] at hanswer
    exact ⟨(hgroups hunpaged).1, (Except.ok.inj hanswer).symm, (hgroups hunpaged).2⟩

theorem Agrees.filter (h : Agrees k c bag m rows ⟨m, q, none⟩ (.rows arrived groups))
    (hunpaged : q.Unpaged) {e : Expr} {set : Conditions}
    (hset : Predicate.conditionsOf m e = .ok set) :
    ∃ s, (Stage.rows arrived groups).step k c bag m (.filter e) = some s ∧
      Agrees k c bag m rows ⟨m, { q with conditions := q.conditions ++ set }, none⟩ s := by
  obtain ⟨rfl, hsorted, hgroups⟩ := h.of_unpaged hunpaged
  have hunpaged' : Query.Unpaged { q with conditions := q.conditions ++ set } := hunpaged
  have hholds : (fun row => e.truth k m bag row == .yes) = set.pass k bag := by
    funext row
    rw [Bool.eq_iff_iff, beq_iff_eq, Predicate.pass_conditionsOf hset]
  refine ⟨_, rfl, .rows ?_ fun _ => ⟨?_, ?_⟩⟩
  · rw [Query.rowsOf_of_unpaged hunpaged', Query.sorted, filter_pass_append, hholds,
      ← List.filter_flatten, hsorted, Ranking.mergeSort_filter (SortKey.lawful_allLe c q.order)]
    rfl
  · rw [filter_pass_append, hholds]
  · exact hgroups.filter _

theorem Agrees.orderBy (h : Agrees k c bag m rows ⟨m, q, none⟩ (.rows arrived groups))
    (hunpaged : q.Unpaged) {key : Expr} {column : String} (d : Direction)
    (hkey : keyColumn m key = .ok column) :
    ∃ s, (Stage.rows arrived groups).step k c bag m (.orderBy key d) = some s ∧
      Agrees k c bag m rows ⟨m, { q with order := [⟨column, d⟩] }, none⟩ s := by
  obtain ⟨rfl, -, -⟩ := h.of_unpaged hunpaged
  refine ⟨_, rfl, ?_⟩
  rw [keyLe_of_keyColumn d hkey]
  refine Agrees.refine [] ⟨column, d⟩ hunpaged ?_ (SortKey.grouped_allLe_nil c _)
  rw [SortKey.mergeSort_allLe_nil]
  simp

theorem Agrees.thenBy (h : Agrees k c bag m rows ⟨m, q, none⟩ (.rows arrived groups))
    (hunpaged : q.Unpaged) {key : Expr} {column : String} (d : Direction)
    (hkey : keyColumn m key = .ok column) :
    ∃ s, (Stage.rows arrived groups).step k c bag m (.thenBy key d) = some s ∧
      Agrees k c bag m rows ⟨m, { q with order := q.order ++ [⟨column, d⟩] }, none⟩ s := by
  obtain ⟨rfl, hsorted, hgroups⟩ := h.of_unpaged hunpaged
  refine ⟨_, rfl, ?_⟩
  rw [keyLe_of_keyColumn d hkey]
  exact Agrees.refine q.order ⟨column, d⟩ hunpaged hsorted hgroups

theorem Agrees.skip {t : Pipeline} {s : Stage} (h : Agrees k c bag m rows t s)
    (hrows : rows.length < 2 ^ 64) {n o : RowCount} {limit : Option RowCount}
    (hlimit : narrowedLimit t.query.limit n = .ok limit)
    (hoffset : widenedOffset t.query.offset n = .ok o)
    (hb : Query.Bounded bag { t.query with offset := some o, limit := limit }) :
    ∃ s', s.step k c bag m (.skip n) = some s' ∧ Agrees k c bag m rows
      { t with query := { t.query with offset := some o, limit := limit } } s' := by
  cases h with
  | rows hanswer hgroups =>
    obtain ⟨count, hcount, hanswer⟩ := Query.rowsOf_skip hrows hanswer hlimit hoffset hb
    refine ⟨_, by rw [Stage.step, hcount]; rfl, .rows ?_ fun hunpaged => ?_⟩
    · rw [hanswer, Ranking.flatten_dropRows]
    · exact absurd hunpaged.1 (by simp)
  | shapes hanswer =>
    obtain ⟨count, hcount, hanswer⟩ := Query.rowsOf_skip hrows hanswer hlimit hoffset hb
    refine ⟨_, by rw [Stage.step, hcount]; rfl, ?_⟩
    simp only [← List.map_drop]
    exact .shapes hanswer

theorem Agrees.take {t : Pipeline} {s : Stage} (h : Agrees k c bag m rows t s)
    {n limit : RowCount} (hlimit : tightenedLimit t.query.limit n = .ok limit)
    (hb : Query.Bounded bag { t.query with limit := some limit }) :
    ∃ s', s.step k c bag m (.take n) = some s' ∧
      Agrees k c bag m rows { t with query := { t.query with limit := some limit } } s' := by
  cases h with
  | rows hanswer hgroups =>
    obtain ⟨count, hcount, hanswer⟩ := Query.rowsOf_take hanswer hlimit hb
    refine ⟨_, by rw [Stage.step, hcount]; rfl, .rows ?_ fun hunpaged => ?_⟩
    · rw [hanswer, Ranking.flatten_takeRows]
    · exact absurd hunpaged.2 (by simp)
  | shapes hanswer =>
    obtain ⟨count, hcount, hanswer⟩ := Query.rowsOf_take hanswer hlimit hb
    refine ⟨_, by rw [Stage.step, hcount]; rfl, ?_⟩
    simp only [← List.map_take]
    exact .shapes hanswer

theorem Agrees.select (h : Agrees k c bag m rows ⟨m, q, none⟩ (.rows arrived groups))
    {p : Projection} {prepared : PreparedProjection} (hp : p.prepare m = .ok prepared) :
    ∃ s, (Stage.rows arrived groups).step k c bag m (.select p) = some s ∧
      Agrees k c bag m rows ⟨m, q, some prepared⟩ s := by
  cases h with
  | rows hanswer hgroups =>
    refine ⟨_, rfl, ?_⟩
    rw [← projection_of_prepare hp]
    exact .shapes hanswer

end

/-- What an accepted operator makes of the query, a host makes of its rows. -/
theorem Agrees.step {t t' : Pipeline} {s : Stage} {op : QueryStep}
    (h : Agrees k c bag m rows t s) (hrows : rows.length < 2 ^ 64) (hop : Accepted t op t')
    (hb : t'.query.Bounded bag) :
    ∃ s', s.step k c bag m op = some s' ∧ Agrees k c bag m rows t' s' := by
  cases hop with
  | filter hpage hset => cases h with | rows ha hg => exact (Agrees.rows ha hg).filter hpage hset
  | select hp => cases h with | rows ha hg => exact (Agrees.rows ha hg).select hp
  | orderBy hpage hk => cases h with | rows ha hg => exact (Agrees.rows ha hg).orderBy hpage _ hk
  | thenBy hpage _ hk => cases h with | rows ha hg => exact (Agrees.rows ha hg).thenBy hpage _ hk
  | skip hlimit hoffset => exact h.skip hrows hlimit hoffset hb
  | take hlimit => exact h.take hlimit hb

theorem Agrees.steps {t t' : Pipeline} {s : Stage} {ops : List QueryStep}
    (h : Agrees k c bag m rows t s) (hrows : rows.length < 2 ^ 64) (hops : t.steps ops = (t', []))
    (hb : t'.query.Bounded bag) :
    ∃ s', ops.foldlM (Stage.step k c bag m) s = some s' ∧ Agrees k c bag m rows t' s' := by
  induction ops generalizing t s with
  | nil =>
    obtain ⟨rfl, -⟩ := Prod.mk.inj hops
    exact ⟨s, rfl, h⟩
  | cons op ops ih =>
    obtain ⟨next, hop, hops⟩ := steps_cons_eq hops
    obtain ⟨s₁, hs₁, h₁⟩ := h.step hrows (accepted_of_extend hop) (bounded_of_steps hops hb)
    obtain ⟨s₂, hs₂, h₂⟩ := ih h₁ hops
    exact ⟨s₂, by rw [List.foldlM_cons, hs₁]; exact hs₂, h₂⟩

theorem Agrees.answer {t : Pipeline} {s : Stage} (h : Agrees k c bag m rows t s) :
    t.prepare.answer k c bag rows = .ok (s.output m) := by
  have hanswer : t.prepare.answer k c bag rows =
      (t.query.rowsOf k c bag rows).map (List.map fun row =>
        t.prepare.projection.projection.shape (t.model.rowOf row) bag) := rfl
  rw [hanswer]
  cases h with
  | rows ha hg =>
    rw [ha]
    rfl
  | shapes ha =>
    rw [ha]
    rfl

/-- A query whose operators have all been accepted answers as they do one after another, on every
table whose rows can be counted. -/
theorem answer_prepare (k : Tests) (c : Collation) (bag : Bag) (m : Entity)
    (rows : List TableRow) (ops : List QueryStep) (t : Pipeline)
    (hops : (start m).steps ops = (t, [])) (hb : t.prepare.query.Bounded bag)
    (hrows : rows.length < 2 ^ 64) :
    ∃ l, t.prepare.answer k c bag rows = .ok l ∧ Stage.run k c bag m rows ops = some l := by
  obtain ⟨s, hs, h⟩ := agrees_start.steps hrows hops hb
  exact ⟨s.output m, h.answer, by rw [Stage.run, hs]; rfl⟩

def seat : Entity :=
  ⟨"Seat", "seats", [⟨"Row", "row", .int32, false, false⟩,
    ⟨"Number", "number", .int32, false, false⟩, ⟨"Taken", "is_taken", .bool, false, false⟩], [], []⟩

def seatAt (row number : Int64) (taken : Bool) : TableRow
  | "row" => .int row
  | "number" => .int number
  | _ => .bool taken

def seats : List TableRow :=
  [seatAt 2 1 false, seatAt 1 1 false, seatAt 1 2 true, seatAt 2 3 false, seatAt 1 3 false,
    seatAt 2 2 false]

/-- Free seats row by row and from the right, some of them after the first two. -/
def freeSeats : List QueryStep :=
  [.orderBy (.column "Row") .asc, .filter (.not (.column "Taken")),
    .thenBy (.convert (.column "Number")) .desc, .skip (.known 1), .skip (.known 1),
    .take (.param "n"), .select (.column "Number")]

theorem answer_freeSeats : ∃ t bag, (start seat).steps freeSeats = (t, []) ∧
    t.prepare.query.Bounded bag ∧ seats.length < 2 ^ 64 ∧
    t.prepare.answer .scalars .integers bag seats =
      .ok [.ok (.value (.int 3)), .ok (.value (.int 2))] := by
  let bag : Bag := .ofList [("n", .int 2)]
  let t := ((start seat).steps freeSeats).1
  have hops : (start seat).steps freeSeats = (t, []) := by cbv
  have hoffset : t.query.offset = some (.known (addSaturating 1 1)) := by cbv
  have hlimit : t.query.limit = some (.param "n") := by cbv
  have hb : t.prepare.query.Bounded bag := by
    rintro b (hq | hq)
    · obtain rfl := Option.some.inj (hoffset.symm.trans hq)
      exact ⟨addSaturating 1 1, rfl⟩
    · obtain rfl := Option.some.inj (hlimit.symm.trans hq)
      exact ⟨2, by cbv⟩
  have hrun : Stage.run .scalars .integers bag seat seats freeSeats =
      some [.ok (.value (.int 3)), .ok (.value (.int 2))] := by cbv
  obtain ⟨l, hl, hl'⟩ := answer_prepare .scalars .integers bag seat seats freeSeats t hops hb
    (by decide)
  obtain rfl := Option.some.inj (hrun.symm.trans hl')
  exact ⟨t, bag, hops, hb, by decide, hl⟩

end Pipeline

end RemoteTable
