import TableQuery.Proofs.EditDistance.Script

/-!
# Table — all distances of prefixes at once

The table has a row for every prefix of one text, and in it a column for every prefix of another. It
starts with zeros, gets its first column and its first row, and is then filled in place, row by row,
each entry from its neighbours above, to the left and in the corner between them. Here every index
is checked against the table and the texts (`Table.get?`, `Table.set?`, `fillPlace?`), so a table
that comes out in the end was filled without an index out of range.

A loop adds entries to those that are known already, and an entry that is known is the distance of
its two prefixes (`Table.Filled`). When all loops are done, all entries are known, and the last one
is the distance of the texts (`table_of_distances`).
-/

namespace TableQuery
namespace EditDistance

/-! ## Filling in place -/

/-- Numbers in rows. -/
structure Table where
  rows : Array (Array Nat)

namespace Table

/-- A table with zeros in all places. -/
def zeros (height width : Nat) : Table :=
  ⟨Array.replicate height (Array.replicate width 0)⟩

/-- The entry at a place, if the table has this place. -/
def get? (t : Table) (i j : Nat) : Option Nat :=
  t.rows[i]?.bind fun entries => entries[j]?

/-- The table with a new entry at a place, if it has this place. -/
def set? (t : Table) (i j entry : Nat) : Option Table :=
  t.rows[i]?.bind fun entries =>
    if h : j < entries.size then some ⟨t.rows.setIfInBounds i (entries.set j entry)⟩ else none

end Table

/-- The index before another, which the first index does not have. -/
def before? : Nat → Option Nat
  | 0 => none
  | i + 1 => some i

/-- Fills one place from the entries next to it and the characters that its prefixes end in. -/
def fillPlace? (xs ys : List Char) (i : Nat) (t : Table) (j : Nat) : Option Table := do
  let iBefore ← before? i
  let jBefore ← before? j
  let x ← xs[iBefore]?
  let y ← ys[jBefore]?
  let above ← t.get? iBefore j
  let left ← t.get? i jBefore
  let corner ← t.get? iBefore jBefore
  t.set? i j (min (min (above + 1) (left + 1)) (corner + if x = y then 0 else 1))

/-- Fills one row from the row above it. -/
def fillEntries? (xs ys : List Char) (t : Table) (i : Nat) : Option Table :=
  (List.range' 1 ys.length).foldlM (fillPlace? xs ys i) t

/-- The table with all its entries. -/
def filled? (xs ys : List Char) : Option Table := do
  let start := Table.zeros (xs.length + 1) (ys.length + 1)
  let t ← (List.range' 0 (xs.length + 1)).foldlM (fun t i => t.set? i 0 i) start
  let t ← (List.range' 0 (ys.length + 1)).foldlM (fun t j => t.set? 0 j j) t
  (List.range' 1 xs.length).foldlM (fillEntries? xs ys) t

/-- The last entry of the table. -/
def last? (xs ys : List Char) : Option Nat := do
  let t ← filled? xs ys
  t.get? xs.length ys.length

/-! ## Reading behind writing -/

theorem Table.get?_zeros {height width i j : Nat} (hi : i < height) (hj : j < width) :
    (zeros height width).get? i j = some 0 := by
  simp [get?, zeros, hi, hj]

/-- A place that can be read can be written, and the other places keep their entries. -/
theorem Table.exists_set? {t : Table} {i j old : Nat} (h : t.get? i j = some old) (entry : Nat) :
    ∃ t', t.set? i j entry = some t' ∧
      ∀ k l, t'.get? k l = if k = i ∧ l = j then some entry else t.get? k l := by
  rcases Option.bind_eq_some_iff.1 h with ⟨entries, hRow, hOld⟩
  rcases Array.getElem?_eq_some_iff.1 hOld with ⟨hj, -⟩
  rcases Array.getElem?_eq_some_iff.1 hRow with ⟨hi, -⟩
  refine ⟨_, by rw [set?, hRow, Option.bind_some, dif_pos hj], fun k l => ?_⟩
  by_cases hk : k = i
  · subst hk
    have hWritten : (t.rows.setIfInBounds k (entries.set j entry))[k]? =
        some (entries.set j entry) := by
      rw [Array.getElem?_setIfInBounds_self_of_lt hi]
    rw [get?, hWritten, Option.bind_some, get?, hRow, Option.bind_some, Array.getElem?_set hj]
    by_cases hl : l = j
    · rw [if_pos hl.symm, if_pos ⟨rfl, hl⟩]
    · rw [if_neg (Ne.symm hl), if_neg fun hSame => hl hSame.2]
  · rw [if_neg fun hSame => hk hSame.1, get?, get?, Array.getElem?_setIfInBounds_ne (Ne.symm hk)]

/-! ## Entries that are known -/

/-- What it costs to turn one prefix into another. -/
def prefixCost (xs ys : List Char) (i j : Nat) : Nat :=
  cost (xs.take i).reverse (ys.take j).reverse

section Known

variable {xs ys : List Char}

theorem prefixCost_eq (xs ys : List Char) (i j : Nat) :
    prefixCost xs ys i j = cost (xs.take i) (ys.take j) :=
  cost_reverse _ _

theorem prefixCost_zero_right {i : Nat} (hi : i ≤ xs.length) : prefixCost xs ys i 0 = i := by
  rw [prefixCost_eq, List.take_zero, cost_nil_right, List.length_take_of_le hi]

theorem prefixCost_zero_left {j : Nat} (hj : j ≤ ys.length) : prefixCost xs ys 0 j = j := by
  rw [prefixCost_eq, List.take_zero, cost_nil_left, List.length_take_of_le hj]

/-- A prefix that is longer by one ends in the next character. -/
theorem prefixCost_succ_succ {i j : Nat} (hi : i < xs.length) (hj : j < ys.length) :
    prefixCost xs ys (i + 1) (j + 1) =
      min (min (prefixCost xs ys i (j + 1) + 1) (prefixCost xs ys (i + 1) j + 1))
        (prefixCost xs ys i j + if xs[i] = ys[j] then 0 else 1) := by
  have hx : (xs.take (i + 1)).reverse = xs[i] :: (xs.take i).reverse := by
    rw [List.take_succ_eq_append_getElem hi, List.reverse_append]
    rfl
  have hy : (ys.take (j + 1)).reverse = ys[j] :: (ys.take j).reverse := by
    rw [List.take_succ_eq_append_getElem hj, List.reverse_append]
    rfl
  simp only [prefixCost, hx, hy, cost_cons_cons]

/-- The table has a place for any two prefixes, and at those places that are known the distance of
the prefixes. -/
structure Table.Filled (xs ys : List Char) (known : Nat → Nat → Prop) (t : Table) : Prop where
  place : ∀ i ≤ xs.length, ∀ j ≤ ys.length, ∃ entry, t.get? i j = some entry
  entry : ∀ i ≤ xs.length, ∀ j ≤ ys.length, known i j → t.get? i j = some (prefixCost xs ys i j)

namespace Table

variable {t : Table} {known : Nat → Nat → Prop}

theorem filled_zeros (xs ys : List Char) :
    (zeros (xs.length + 1) (ys.length + 1)).Filled xs ys fun _ _ => False where
  place _ hi _ hj := ⟨0, get?_zeros (Nat.lt_succ_of_le hi) (Nat.lt_succ_of_le hj)⟩
  entry _ _ _ _ h := h.elim

theorem Filled.mono {known' : Nat → Nat → Prop} (h : t.Filled xs ys known)
    (hFewer : ∀ i ≤ xs.length, ∀ j ≤ ys.length, known' i j → known i j) :
    t.Filled xs ys known' where
  place := h.place
  entry i hi j hj hKnown := h.entry i hi j hj (hFewer i hi j hj hKnown)

/-- With the distance of its prefixes at a place, this place is known too. -/
theorem Filled.set? (h : t.Filled xs ys known) {i j entry : Nat} (hi : i ≤ xs.length)
    (hj : j ≤ ys.length) (hEntry : entry = prefixCost xs ys i j) :
    ∃ t', t.set? i j entry = some t' ∧
      t'.Filled xs ys fun k l => known k l ∨ k = i ∧ l = j := by
  rcases h.place i hi j hj with ⟨old, hOld⟩
  rcases exists_set? hOld entry with ⟨t', hSet, hGet⟩
  refine ⟨t', hSet, fun k hk l hl => ?_, fun k hk l hl hKnown => ?_⟩
  · rw [hGet]
    split
    · exact ⟨entry, rfl⟩
    · exact h.place k hk l hl
  · rw [hGet]
    split
    · next hPlace =>
      rw [hPlace.1, hPlace.2, hEntry]
    · next hPlace =>
      exact h.entry k hk l hl (hKnown.resolve_right hPlace)

end Table

/-! ## The loops -/

/-- A loop over successive numbers keeps what each round brings from one number to the next. -/
theorem exists_foldlM_range' {σ : Type} (f : σ → Nat → Option σ) (holds : Nat → σ → Prop)
    (first count : Nat) {s : σ} (h : holds first s)
    (hRound : ∀ k s, first ≤ k → k < first + count → holds k s →
      ∃ s', f s k = some s' ∧ holds (k + 1) s') :
    ∃ s', (List.range' first count).foldlM f s = some s' ∧ holds (first + count) s' := by
  induction count generalizing first s with
  | zero => exact ⟨s, rfl, h⟩
  | succ count ih =>
      rcases hRound first s (le_refl _) (by omega) h with ⟨next, hNext, hHolds⟩
      have hRest := ih (first + 1) hHolds fun k s hFirst hLast => hRound k s (by omega) (by omega)
      rcases hRest with ⟨s', hLoop, hEnd⟩
      refine ⟨s', ?_, ?_⟩
      · rw [List.range'_succ, List.foldlM_cons, hNext]
        exact hLoop
      · rw [← Nat.add_assoc, Nat.add_right_comm]
        exact hEnd

/-- The places that are known when the loops are at a place: the first column, the first row, the
rows above, and what stands to the left. -/
def Passed (i j k l : Nat) : Prop :=
  k = 0 ∨ l = 0 ∨ k < i ∨ k = i ∧ l < j

/-- The entries that an entry is made of are known when the loops come to it. -/
theorem exists_fillPlace? {t : Table} {i j : Nat} (hi : 1 ≤ i ∧ i ≤ xs.length)
    (hj : 1 ≤ j ∧ j ≤ ys.length) (h : t.Filled xs ys (Passed i j)) :
    ∃ t', fillPlace? xs ys i t j = some t' ∧ t'.Filled xs ys (Passed i (j + 1)) := by
  obtain ⟨i, rfl⟩ := Nat.exists_eq_add_of_le' hi.1
  obtain ⟨j, rfl⟩ := Nat.exists_eq_add_of_le' hj.1
  have hx : i < xs.length := hi.2
  have hy : j < ys.length := hj.2
  have hAbove := h.entry i hx.le (j + 1) hy (.inr (.inr (.inl (Nat.lt_succ_self i))))
  have hLeft := h.entry (i + 1) hx j hy.le (.inr (.inr (.inr ⟨rfl, Nat.lt_succ_self j⟩)))
  have hCorner := h.entry i hx.le j hy.le (.inr (.inr (.inl (Nat.lt_succ_self i))))
  rcases h.set? hi.2 hj.2 (prefixCost_succ_succ hx hy).symm with ⟨t', hSet, hFilled⟩
  refine ⟨t', ?_, hFilled.mono fun k _ l _ hPassed => ?_⟩
  · simp only [fillPlace?, before?, List.getElem?_eq_getElem hx, List.getElem?_eq_getElem hy,
      hAbove, hLeft, hCorner, Option.bind_eq_bind, Option.bind_some]
    exact hSet
  · unfold Passed at hPassed ⊢
    omega

theorem exists_fillEntries? {t : Table} {i : Nat} (hi : 1 ≤ i ∧ i ≤ xs.length)
    (h : t.Filled xs ys (Passed i 1)) :
    ∃ t', fillEntries? xs ys t i = some t' ∧ t'.Filled xs ys (Passed (i + 1) 1) := by
  have hLoop := exists_foldlM_range' (fillPlace? xs ys i)
    (fun j t => t.Filled xs ys (Passed i j)) 1 ys.length h fun j t hFirst hLast hFilled =>
      exists_fillPlace? hi ⟨hFirst, by omega⟩ hFilled
  rcases hLoop with ⟨t', hEntries, hFilled⟩
  refine ⟨t', hEntries, hFilled.mono fun k _ l hl hPassed => ?_⟩
  unfold Passed at hPassed ⊢
  omega

theorem exists_firstColumn {t : Table} (h : t.Filled xs ys fun _ _ => False) :
    ∃ t', (List.range' 0 (xs.length + 1)).foldlM (fun t i => Table.set? t i 0 i) t = some t' ∧
      t'.Filled xs ys fun _ l => l = 0 := by
  have hLoop := exists_foldlM_range' (fun t i => Table.set? t i 0 i)
    (fun i t => t.Filled xs ys fun k l => l = 0 ∧ k < i) 0 (xs.length + 1)
    (h.mono fun k _ l _ hKnown => absurd hKnown.2 (Nat.not_lt_zero k))
    fun i t _ hLast hFilled => by
      have hi : i ≤ xs.length := by omega
      rcases hFilled.set? hi (Nat.zero_le _) (prefixCost_zero_right hi).symm with ⟨t', hSet, hNext⟩
      exact ⟨t', hSet, hNext.mono fun k _ l _ hKnown => by omega⟩
  rcases hLoop with ⟨t', hColumn, hFilled⟩
  exact ⟨t', hColumn, hFilled.mono fun k hk l _ hKnown => by omega⟩

theorem exists_firstRow {t : Table} (h : t.Filled xs ys fun _ l => l = 0) :
    ∃ t', (List.range' 0 (ys.length + 1)).foldlM (fun t j => Table.set? t 0 j j) t = some t' ∧
      t'.Filled xs ys fun k l => l = 0 ∨ k = 0 := by
  have hLoop := exists_foldlM_range' (fun t j => Table.set? t 0 j j)
    (fun j t => t.Filled xs ys fun k l => l = 0 ∨ k = 0 ∧ l < j) 0 (ys.length + 1)
    (h.mono fun k _ l _ hKnown => by omega)
    fun j t _ hLast hFilled => by
      have hj : j ≤ ys.length := by omega
      rcases hFilled.set? (Nat.zero_le _) hj (prefixCost_zero_left hj).symm with ⟨t', hSet, hNext⟩
      exact ⟨t', hSet, hNext.mono fun k _ l _ hKnown => by omega⟩
  rcases hLoop with ⟨t', hRow, hFilled⟩
  exact ⟨t', hRow, hFilled.mono fun k _ l hl hKnown => by omega⟩

/-- All loops run to their ends, and then all entries are known. -/
theorem exists_filled? (xs ys : List Char) :
    ∃ t, filled? xs ys = some t ∧ t.Filled xs ys fun _ _ => True := by
  rcases exists_firstColumn (Table.filled_zeros xs ys) with ⟨withColumn, hColumn, hFilled⟩
  rcases exists_firstRow hFilled with ⟨withRow, hRow, hFilled⟩
  have hStart : withRow.Filled xs ys (Passed 1 1) := hFilled.mono fun k _ l _ hPassed => by
    unfold Passed at hPassed
    omega
  have hRows := exists_foldlM_range' (fillEntries? xs ys)
    (fun i t => t.Filled xs ys (Passed i 1)) 1 xs.length hStart fun i t hFirst hLast hFilled =>
      exists_fillEntries? ⟨hFirst, by omega⟩ hFilled
  rcases hRows with ⟨t, hTable, hFilled⟩
  refine ⟨t, ?_, hFilled.mono fun k hk l _ _ => ?_⟩
  · simp only [filled?, hColumn, hRow, Option.bind_eq_bind, Option.bind_some]
    exact hTable
  · unfold Passed
    omega

theorem last?_eq (xs ys : List Char) : last? xs ys = some (distanceChars xs ys) := by
  rcases exists_filled? xs ys with ⟨t, hTable, hFilled⟩
  have hLast := hFilled.entry xs.length (le_refl _) ys.length (le_refl _) trivial
  rw [prefixCost_eq, List.take_length, List.take_length] at hLast
  rw [last?, hTable, distanceChars_eq_cost]
  exact hLast

end Known

/-- The table of two texts is filled without an index out of range. Its entries are the least
numbers of edits that turn one prefix into another, the last one is the distance of the texts, and
so the distance is the least number of edits that turn one text into the other. It is the same in
both directions, zero for equal texts only, and no greater than the distances to and from a third
text together. -/
theorem table_of_distances (a b : String) :
    (∃ t, filled? a.toList b.toList = some t ∧
      ∀ i ≤ a.length, ∀ j ≤ b.length, ∃ entry, t.get? i j = some entry ∧
        IsLeast {n | Edits n (a.toList.take i) (b.toList.take j)} entry) ∧
    last? a.toList b.toList = some (distance a b) ∧
    IsLeast {n | Edits n a.toList b.toList} (distance a b) ∧
    distance a b = distance b a ∧
    (distance a b = 0 ↔ a = b) ∧
    ∀ c, distance a c ≤ distance a b + distance b c := by
  refine ⟨?_, last?_eq _ _, isLeast_distance a b, distance_comm a b,
    distance_eq_zero_iff a b, distance_triangle a b⟩
  rcases exists_filled? a.toList b.toList with ⟨t, hTable, hFilled⟩
  refine ⟨t, hTable, fun i hi j hj => ⟨_, hFilled.entry i hi j hj trivial, ?_⟩⟩
  rw [prefixCost_eq]
  exact isLeast_cost _ _

end EditDistance
end TableQuery
