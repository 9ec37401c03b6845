import RemoteTable.Proofs.Query.Acceptance

/-!
Pages of pages. Rows skipped or taken from a page of a list are a page of the list again, with the
bounds that the query keeps, as long as the list is no longer than the greatest count.
-/

namespace RemoteTable

theorem toNat_addSaturating (a b : UInt64) :
    (addSaturating a b).toNat = min (a.toNat + b.toNat) (2 ^ 64 - 1) := by
  have hlt : min (a.toNat + b.toNat) (UInt64.size - 1) < UInt64.size := by
    unfold UInt64.size
    omega
  rw [addSaturating, UInt64.toNat_ofNat_of_lt' hlt]
  rfl

theorem toNat_subSaturating (a b : UInt64) : (subSaturating a b).toNat = a.toNat - b.toNat := by
  have hlt : a.toNat - b.toNat < UInt64.size := by
    have := a.toNat_lt
    unfold UInt64.size
    omega
  rw [subSaturating, UInt64.toNat_ofNat_of_lt' hlt]

namespace Query

variable {k : Tests} {c : Collation} {bag : Bag} {rows l : List TableRow} {q : Query}

/-- The sum of two offsets stops at the greatest count, where no rows are left either way. -/
theorem drop_page (hl : l.length < 2 ^ 64) (offset : Option UInt64) (n : UInt64)
    (limit : Option UInt64) : (page offset limit l).drop n.toNat =
      page (some ((offset.map (addSaturating · n)).getD n)) (limit.map (subSaturating · n)) l := by
  have hrest : (l.drop ((offset.map UInt64.toNat).getD 0)).drop n.toNat =
      l.drop ((offset.map (addSaturating · n)).getD n).toNat := by
    cases offset with
    | none => rfl
    | some a =>
      simp only [Option.map_some, Option.getD_some, List.drop_drop, toNat_addSaturating]
      by_cases hle : a.toNat + n.toNat ≤ 2 ^ 64 - 1
      · rw [Nat.min_eq_left hle]
      · rw [List.drop_eq_nil_of_le (by omega), List.drop_eq_nil_of_le (by omega)]
  cases limit with
  | none => exact hrest
  | some limit =>
    simp only [page, Option.map_some, Option.getD_some, List.drop_take, hrest, toNat_subSaturating]

theorem take_page (offset limit : Option UInt64) (n : UInt64) (l : List TableRow) :
    (page offset limit l).take n.toNat = page offset (some ((limit.map (min · n)).getD n)) l := by
  cases limit with
  | none => rfl
  | some a =>
    have hmin : (min a n).toNat = min n.toNat a.toNat := by rw [Nat.min_comm, UInt64.toNat_min]
    simp only [page, Option.map_some, Option.getD_some, List.take_take, hmin]

section

variable {a : Option UInt64} {n s : UInt64} {b b' : Option RowCount} {count o : RowCount}

theorem boundIn_widenedOffset (h : Pipeline.widenedOffset b count = .ok o)
    (ha : boundIn bag b = .ok a) (hs : o.valueIn bag = .ok s) :
    ∃ n, count.valueIn bag = .ok n ∧ s = (a.map (addSaturating · n)).getD n := by
  rcases Pipeline.widenedOffset_eq_ok h with ⟨rfl, rfl⟩ | ⟨x, y, rfl, rfl, rfl⟩
  · cases ha
    exact ⟨s, hs, rfl⟩
  · cases ha
    cases hs
    exact ⟨y, rfl, rfl⟩

theorem boundIn_narrowedLimit (h : Pipeline.narrowedLimit b count = .ok b')
    (ha : boundIn bag b = .ok a) (hn : count.valueIn bag = .ok n) :
    boundIn bag b' = .ok (a.map (subSaturating · n)) := by
  rcases Pipeline.narrowedLimit_eq_ok h with ⟨rfl, rfl⟩ | ⟨x, y, rfl, rfl, rfl⟩
  · cases ha
    rfl
  · cases ha
    cases hn
    rfl

theorem boundIn_tightenedLimit (h : Pipeline.tightenedLimit b count = .ok o)
    (ha : boundIn bag b = .ok a) (hs : o.valueIn bag = .ok s) :
    ∃ n, count.valueIn bag = .ok n ∧ s = (a.map (min · n)).getD n := by
  rcases Pipeline.tightenedLimit_eq_ok h with ⟨rfl, rfl⟩ | ⟨x, y, rfl, rfl, rfl⟩
  · cases ha
    exact ⟨s, hs, rfl⟩
  · cases ha
    cases hs
    exact ⟨y, rfl, rfl⟩

end

theorem boundIn_some {b : RowCount} {n : UInt64} (h : b.valueIn bag = .ok n) :
    boundIn bag (some b) = .ok (some n) := by
  rw [boundIn, h]
  rfl

theorem rowsOf_eq_ok : q.rowsOf k c bag rows = .ok l ↔ ∃ offset, boundIn bag q.offset = .ok offset ∧
    ∃ limit, boundIn bag q.limit = .ok limit ∧ page offset limit (q.sorted k c bag rows) = l := by
  simp only [rowsOf, Except.bind_eq_ok, Except.ok.injEq]

theorem rowsOf_of_unpaged (h : q.Unpaged) :
    q.rowsOf k c bag rows = .ok (q.sorted k c bag rows) := by
  unfold rowsOf
  rw [h.1, h.2]
  rfl

theorem length_sorted (k : Tests) (c : Collation) (bag : Bag) (rows : List TableRow) (q : Query) :
    (q.sorted k c bag rows).length ≤ rows.length := by
  rw [sorted, List.length_mergeSort]
  exact List.length_filter_le _ _

/-- Rows skipped on the answer of a query are skipped by the query. -/
theorem rowsOf_skip (hrows : rows.length < 2 ^ 64) {count offset : RowCount}
    {limit : Option RowCount} (hl : q.rowsOf k c bag rows = .ok l)
    (hlimit : Pipeline.narrowedLimit q.limit count = .ok limit)
    (hoffset : Pipeline.widenedOffset q.offset count = .ok offset)
    (hb : Bounded bag { q with offset := some offset, limit := limit }) :
    ∃ n, count.valueIn bag = .ok n ∧
      rowsOf k c bag rows { q with offset := some offset, limit := limit } =
        .ok (l.drop n.toNat) := by
  obtain ⟨a, ha, x, hx, rfl⟩ := rowsOf_eq_ok.1 hl
  obtain ⟨s, hs⟩ := hb offset (.inl rfl)
  obtain ⟨n, hn, rfl⟩ := boundIn_widenedOffset hoffset ha hs
  have hlength := Nat.lt_of_le_of_lt (length_sorted k c bag rows q) hrows
  refine ⟨n, hn, ?_⟩
  rw [drop_page hlength]
  exact rowsOf_eq_ok.2 ⟨_, boundIn_some hs, _, boundIn_narrowedLimit hlimit hx hn, rfl⟩

/-- Rows taken from the answer of a query are taken by the query. -/
theorem rowsOf_take {count limit : RowCount} (hl : q.rowsOf k c bag rows = .ok l)
    (hlimit : Pipeline.tightenedLimit q.limit count = .ok limit)
    (hb : Bounded bag { q with limit := some limit }) :
    ∃ n, count.valueIn bag = .ok n ∧
      rowsOf k c bag rows { q with limit := some limit } = .ok (l.take n.toNat) := by
  obtain ⟨a, ha, x, hx, rfl⟩ := rowsOf_eq_ok.1 hl
  obtain ⟨s, hs⟩ := hb limit (.inr rfl)
  obtain ⟨n, hn, rfl⟩ := boundIn_tightenedLimit hlimit hx hs
  refine ⟨n, hn, ?_⟩
  rw [take_page]
  exact rowsOf_eq_ok.2 ⟨a, ha, _, boundIn_some hs, rfl⟩

end Query

end RemoteTable
