import Mathlib.Data.Multiset.Dedup
import Mathlib.Data.Multiset.Sort
import TableQuery.Expr.Build
import TableQuery.Plan
import TableQuery.Proofs.Relation.Nodes

/-!
# Meaning — a plan denotes what its relation denotes

Relations are read as bags of rows together with the sort keys in force. The reading is open in all
that planning does not look at: what tables, views, queries and joins hold, what projections and
groupings compute, and which rows a limit keeps. The main result is that the clauses of a plan, put
back into a tree in the order in which a statement evaluates them, denote what the planned relation
denotes.
-/

namespace TableQuery

universe u

/-- A bag of rows with the sort keys in force. -/
structure SortedBag (Row : Type u) where
  rows : Multiset Row
  keys : List (SortKey Expr)

/-- What the parts of a relation mean over rows of some type. -/
structure Interpretation (Row : Type u) where
  /-- The rows of a table, a view, a raw query or a join. -/
  base : Relation → SortedBag Row
  /-- Whether a row satisfies a predicate. -/
  holds : Expr → Row → Bool
  project : List Expr → Multiset Row → Multiset Row
  /-- The groups by keys, with metrics, that a condition keeps. -/
  group : List Expr → List Expr → List Expr → Multiset Row → Multiset Row
  dedup : Multiset Row → Multiset Row
  /-- The rows that a count and an offset leave, which may depend on the order in force. -/
  limit : Nat → Nat → SortedBag Row → SortedBag Row

/-! ## Operators -/

namespace Interpretation

variable {Row : Type u} (I : Interpretation Row)

/-- Keeps the rows that satisfy all predicates. -/
def keep (predicates : List Expr) (b : SortedBag Row) : SortedBag Row :=
  { b with rows := b.rows.filter fun row => predicates.all (I.holds · row) = true }

/-- Computes the projections; no projections stand for all columns. -/
def select (projections : List Expr) (b : SortedBag Row) : SortedBag Row :=
  if projections.isEmpty then b else { b with rows := I.project projections b.rows }

/-- Puts sort keys in force, unless there are none. -/
def sort (keys : List (SortKey Expr)) (b : SortedBag Row) : SortedBag Row :=
  if keys.isEmpty then b else { b with keys := keys }

/-- Groups the rows, which leaves no order. -/
def groupRows (keys metrics having : List Expr) (b : SortedBag Row) : SortedBag Row :=
  ⟨I.group keys metrics having b.rows, []⟩

/-- Drops repeated rows. -/
def dedupRows (b : SortedBag Row) : SortedBag Row :=
  { b with rows := I.dedup b.rows }

@[simp]
theorem keep_nil (b : SortedBag Row) : I.keep [] b = b := by
  simp [keep]

@[simp]
theorem select_nil (b : SortedBag Row) : I.select [] b = b := by
  simp [select]

@[simp]
theorem sort_nil (b : SortedBag Row) : sort [] b = b := by
  simp [sort]

/-- Two filters in a row are one filter by all their predicates. -/
theorem keep_keep (ps qs : List Expr) (b : SortedBag Row) :
    I.keep qs (I.keep ps b) = I.keep (ps ++ qs) b := by
  simp [keep, Multiset.filter_filter, List.all_append, and_comm]

/-- The later of two sorts wins, if it has keys. -/
theorem sort_sort (ks ls : List (SortKey Expr)) (b : SortedBag Row) :
    sort ls (sort ks b) = sort (if ls.isEmpty then ks else ls) b := by
  cases ls <;> cases ks <;> simp [sort]

/-- A filter leaves the order alone. -/
theorem keep_sort (ps : List Expr) (ks : List (SortKey Expr)) (b : SortedBag Row) :
    I.keep ps (sort ks b) = sort ks (I.keep ps b) := by
  cases ks <;> simp [sort, keep]

/-- A projection leaves the order alone. -/
theorem select_sort (es : List Expr) (ks : List (SortKey Expr)) (b : SortedBag Row) :
    I.select es (sort ks b) = sort ks (I.select es b) := by
  cases es <;> cases ks <;> simp [sort, select]

/-- Dropping repeated rows leaves the order alone. -/
theorem dedupRows_sort (ks : List (SortKey Expr)) (b : SortedBag Row) :
    I.dedupRows (sort ks b) = sort ks (I.dedupRows b) := by
  cases ks <;> simp [sort, dedupRows]

/-- A grouping forgets the order. -/
theorem groupRows_sort (keys metrics having : List Expr) (ks : List (SortKey Expr))
    (b : SortedBag Row) :
    I.groupRows keys metrics having (sort ks b) = I.groupRows keys metrics having b := by
  cases ks <;> simp [sort, groupRows]

/-- What a relation denotes. A selection filters first, then projects, then sorts. -/
def denote : Relation → SortedBag Row
  | .selection _ input projections predicates sortKeys =>
    sort sortKeys (I.select projections (I.keep predicates (denote input)))
  | .aggregation _ input keys metrics having => I.groupRows keys metrics having (denote input)
  | .limit _ input count offset => I.limit count offset (denote input)
  | .distinct _ input => I.dedupRows (denote input)
  | .table id name schema => I.base (.table id name schema)
  | .selfReference id target => I.base (.selfReference id target)
  | .sqlQuery id query schema => I.base (.sqlQuery id query schema)
  | .join id kind left right predicates => I.base (.join id kind left right predicates)
  | .union id left right dropsRepeats => I.base (.union id left right dropsRepeats)

end Interpretation

/-! ## Plans as trees -/

namespace SelectPlan

/-- The source with the filter over it. -/
def filtered (p : SelectPlan) : Relation :=
  .selection 0 p.source [] p.predicates []

/-- The filtered source with the grouping or the projection over it that the output is. -/
def shaped (p : SelectPlan) : Relation :=
  match p.output with
  | some (.aggregation ..) =>
    .aggregation 0 p.filtered p.groupKeys (p.items.drop p.groupKeys.length) p.having
  | some (.selection ..) => .selection 0 p.filtered p.items [] []
  | _ => p.filtered

/-- The shaped source without repeated rows, if the plan asks for that. -/
def deduplicated (p : SelectPlan) : Relation :=
  if p.distinct then .distinct 0 p.shaped else p.shaped

/-- The deduplicated source in the order of the plan, if it has one. -/
def sorted (p : SelectPlan) : Relation :=
  if p.sortKeys.isEmpty then p.deduplicated else .selection 0 p.deduplicated [] [] p.sortKeys

/-- The clauses of a plan over its source: filter, grouping or projection, distinct, sort and limit,
in this order. Identities have no part in what a tree denotes, and the new nodes all have the
same. -/
def toRelation (p : SelectPlan) : Relation :=
  match p.limit with
  | some l => .limit 0 p.sorted l.count l.offset
  | none => p.sorted

end SelectPlan

namespace Interpretation

variable {Row : Type u} (I : Interpretation Row)

/-- What a plan denotes, clause by clause. -/
def shape (p : SelectPlan) (b : SortedBag Row) : SortedBag Row :=
  match p.output with
  | some (.aggregation ..) => I.groupRows p.groupKeys (p.items.drop p.groupKeys.length) p.having b
  | some (.selection ..) => I.select p.items b
  | _ => b

/-- The rows of a plan before any limit. -/
def unlimited (p : SelectPlan) : SortedBag Row :=
  let shaped := I.shape p (I.keep p.predicates (I.denote p.source))
  sort p.sortKeys (if p.distinct then I.dedupRows shaped else shaped)

theorem denote_shaped (p : SelectPlan) :
    I.denote p.shaped = I.shape p (I.keep p.predicates (I.denote p.source)) := by
  unfold SelectPlan.shaped shape
  split <;> simp [SelectPlan.filtered, denote]

theorem denote_sorted (p : SelectPlan) : I.denote p.sorted = I.unlimited p := by
  have hDistinct : I.denote p.deduplicated =
      if p.distinct then I.dedupRows (I.denote p.shaped) else I.denote p.shaped := by
    unfold SelectPlan.deduplicated
    split <;> simp [denote]
  unfold SelectPlan.sorted unlimited
  simp only [← denote_shaped, ← hDistinct]
  cases p.sortKeys <;> simp [denote]

theorem denote_toRelation (p : SelectPlan) :
    I.denote p.toRelation =
      match p.limit with
      | some l => I.limit l.count l.offset (I.unlimited p)
      | none => I.unlimited p := by
  unfold SelectPlan.toRelation
  cases p.limit with
  | none => exact I.denote_sorted p
  | some l => simp [denote, denote_sorted]

theorem denote_toRelation_of_unlimited {p : SelectPlan} (h : p.limit = none) :
    I.denote p.toRelation = I.unlimited p := by
  simp [denote_toRelation, h]

/-- The plan over a source denotes what the source denotes. -/
theorem denote_toRelation_ofSource (r : Relation) :
    I.denote (SelectPlan.ofSource r).toRelation = I.denote r := by
  simp [denote_toRelation, unlimited, shape, SelectPlan.ofSource]

end Interpretation

/-! ## Planning keeps the meaning -/

namespace SelectPlan

/-- What planning keeps up along a tree: a plan with an output has items, and its clauses denote
what the relation denotes. -/
structure Denotes {Row : Type u} (I : Interpretation Row) (p : SelectPlan) (r : Relation) :
    Prop where
  items_of_output : p.output.isSome = true → p.items ≠ []
  meaning : I.denote p.toRelation = I.denote r

section

variable {Row : Type u} {I : Interpretation Row} {p : SelectPlan} {r input : Relation}

theorem denotes_ofSource (r : Relation) : Denotes I (ofSource r) r where
  items_of_output := by simp [ofSource]
  meaning := I.denote_toRelation_ofSource r

theorem isSimple_iff :
    p.isSimple = true ↔ p.items = [] ∧ p.groupKeys = [] ∧ p.having = [] ∧ p.limit = none ∧
      p.distinct = false := by
  simp [isSimple, and_assoc]

/-- A simple plan is a source, filters and an order. -/
theorem Denotes.of_isSimple (h : Denotes I p r) (hs : p.isSimple = true) :
    p.output = none ∧ I.denote r =
      Interpretation.sort p.sortKeys (I.keep p.predicates (I.denote p.source)) := by
  obtain ⟨hItems, -, -, hLimit, hDistinct⟩ := isSimple_iff.1 hs
  -- an output has items, and a simple plan has none
  have hOutput : p.output = none := by
    cases hOut : p.output with
    | none => rfl
    | some o => exact absurd hItems (h.items_of_output (by simp [hOut]))
  refine ⟨hOutput, ?_⟩
  rw [← h.meaning, I.denote_toRelation_of_unlimited hLimit]
  simp [Interpretation.unlimited, Interpretation.shape, hOutput, hDistinct]

/-- The plan to which clauses are added is simple and denotes the input. -/
theorem Denotes.simpleOr (h : Denotes I p input) :
    Denotes I (p.simpleOr input) input ∧ (p.simpleOr input).isSimple = true := by
  unfold SelectPlan.simpleOr
  split
  · exact ⟨h, by assumption⟩
  · exact ⟨denotes_ofSource input, rfl⟩

/-- A sort may follow whatever is neither limited nor deduplicated. -/
theorem Denotes.resorted (h : Denotes I p input) (hLimit : p.limit = none)
    (hDistinct : p.distinct = false) (id : Nat) (folded : List Relation)
    (sortKeys : List (SortKey Expr)) :
    Denotes I { p with sortKeys := if sortKeys.isEmpty then p.sortKeys else sortKeys, folded }
      (.selection id input [] [] sortKeys) where
  items_of_output := h.items_of_output
  meaning := by
    have hInput := h.meaning
    -- without a limit and a distinct, the sort is the last clause of both
    rw [I.denote_toRelation_of_unlimited hLimit] at hInput
    rw [I.denote_toRelation_of_unlimited (by exact hLimit)]
    simp only [Interpretation.denote, Interpretation.keep_nil, Interpretation.select_nil, ← hInput]
    simp only [Interpretation.unlimited, hDistinct, Bool.false_eq_true, if_false]
    exact (Interpretation.sort_sort _ _ _).symm

theorem Denotes.addSelection (h : Denotes I p input) (id : Nat)
    (projections predicates : List Expr) (sortKeys : List (SortKey Expr)) :
    Denotes I
      (p.addSelection (.selection id input projections predicates sortKeys) input projections
        predicates sortKeys)
      (.selection id input projections predicates sortKeys) := by
  unfold SelectPlan.addSelection
  simp only
  split
  · -- Only the order changes.
    rename_i hSort
    simp only [Bool.and_eq_true, List.isEmpty_iff, Option.isNone_iff_eq_none,
      Bool.not_eq_true'] at hSort
    obtain ⟨⟨⟨rfl, rfl⟩, hLimit⟩, hDistinct⟩ := hSort
    exact h.resorted hLimit hDistinct id _ sortKeys
  · -- the plan is simple or starts anew, so filter, projection and order come last
    obtain ⟨hq, hSimple⟩ := h.simpleOr
    obtain ⟨hOutput, hInput⟩ := hq.of_isSimple hSimple
    generalize p.simpleOr input = q at hSimple hOutput hInput
    obtain ⟨-, -, -, hLimit, hDistinct⟩ := isSimple_iff.1 hSimple
    refine ⟨?_, ?_⟩
    · cases projections <;> simp [hOutput]
    · rw [I.denote_toRelation_of_unlimited (by exact hLimit)]
      simp only [Interpretation.denote, hInput, Interpretation.keep_sort,
        Interpretation.select_sort, Interpretation.sort_sort, Interpretation.keep_keep]
      cases projections <;>
        simp [Interpretation.unlimited, Interpretation.shape, hOutput, hDistinct]

theorem Denotes.addGrouping (h : Denotes I p input) (id : Nat) (keys metrics having : List Expr)
    (hItems : keys ++ metrics ≠ []) :
    Denotes I
      (p.addGrouping (.aggregation id input keys metrics having) input keys metrics having)
      (.aggregation id input keys metrics having) := by
  obtain ⟨hq, hSimple⟩ := h.simpleOr
  obtain ⟨-, hInput⟩ := hq.of_isSimple hSimple
  unfold SelectPlan.addGrouping
  generalize p.simpleOr input = q at hSimple hInput
  obtain ⟨-, -, -, hLimit, hDistinct⟩ := isSimple_iff.1 hSimple
  refine ⟨fun _ => hItems, ?_⟩
  rw [I.denote_toRelation_of_unlimited (by exact hLimit)]
  -- grouping forgets the order, and the plan drops its sort keys
  simp only [Interpretation.denote, hInput, Interpretation.groupRows_sort]
  simp [Interpretation.unlimited, Interpretation.shape, hDistinct]

theorem Denotes.addLimit (h : Denotes I p input) (id count offset : Nat) :
    Denotes I (p.addLimit input count offset) (.limit id input count offset) := by
  have hLimited : ∀ {q : SelectPlan}, Denotes I q input → q.limit = none →
      Denotes I { q with limit := some ⟨count, offset⟩ } (.limit id input count offset) := by
    intro q hq hNone
    -- the limit comes after all other clauses, so it only has to be the first one
    refine ⟨hq.items_of_output, ?_⟩
    rw [Interpretation.denote_toRelation, Interpretation.denote, ← hq.meaning,
      I.denote_toRelation_of_unlimited hNone]
    rfl
  unfold SelectPlan.addLimit
  split
  · exact hLimited (denotes_ofSource input) rfl
  · exact hLimited h (by simpa using ‹¬p.limit.isSome = true›)

theorem Denotes.addDistinct (h : Denotes I p input) (id : Nat) :
    Denotes I (p.addDistinct input) (.distinct id input) := by
  have hDeduplicated : ∀ {q : SelectPlan}, Denotes I q input → q.limit = none →
      q.distinct = false → Denotes I { q with distinct := true } (.distinct id input) := by
    intro q hq hLimit hDistinct
    refine ⟨hq.items_of_output, ?_⟩
    -- repeated rows are dropped before the sort of the plan, which makes no difference
    rw [I.denote_toRelation_of_unlimited (by exact hLimit), Interpretation.denote, ← hq.meaning,
      I.denote_toRelation_of_unlimited hLimit]
    simp only [Interpretation.unlimited, hDistinct, if_true, Bool.false_eq_true, if_false,
      Interpretation.dedupRows_sort]
    rfl
  unfold SelectPlan.addDistinct
  split
  · exact hDeduplicated (denotes_ofSource input) rfl rfl
  · rename_i hFree
    simp only [Bool.or_eq_true, not_or, Bool.not_eq_true, Option.isSome_eq_false_iff,
      Option.isNone_iff_eq_none] at hFree
    exact hDeduplicated h hFree.1 hFree.2

end

end SelectPlan

namespace Relation

/-- Whether the relation is a grouping that has neither keys nor metrics. -/
def isEmptyGrouping : Relation → Bool
  | .aggregation _ _ keys metrics _ => (keys ++ metrics).isEmpty
  | _ => false

end Relation

/-- Planning a relation without unions gives a plan, and its clauses, applied one after another to
its source, denote what the relation denotes. -/
theorem SelectPlan.denote_toRelation_ofRelation {Row : Type u} (I : Interpretation Row)
    (r : Relation) (hUnion : r.containsUnion = false)
    (hGroup : ∀ m ∈ r.nodes, m.isEmptyGrouping = false) :
    ∃ p, SelectPlan.ofRelation r = .ok p ∧ I.denote p.toRelation = I.denote r := by
  suffices h : ∃ p, SelectPlan.ofRelation r = .ok p ∧ Denotes I p r by
    obtain ⟨p, hp, hd⟩ := h
    exact ⟨p, hp, hd.meaning⟩
  induction r with
  | table => exact ⟨_, rfl, denotes_ofSource _⟩
  | selfReference => exact ⟨_, rfl, denotes_ofSource _⟩
  | sqlQuery => exact ⟨_, rfl, denotes_ofSource _⟩
  | join => exact ⟨_, rfl, denotes_ofSource _⟩
  | selection id input projections predicates sortKeys ih =>
      obtain ⟨p, hp, hd⟩ := ih hUnion fun m hm => hGroup m (List.mem_cons_of_mem _ hm)
      exact ⟨_, by rw [ofRelation, hp]; rfl, hd.addSelection id projections predicates sortKeys⟩
  | aggregation id input keys metrics having ih =>
      obtain ⟨p, hp, hd⟩ := ih hUnion fun m hm => hGroup m (List.mem_cons_of_mem _ hm)
      have hItems : keys ++ metrics ≠ [] := by
        have hRoot := hGroup _ (Relation.self_mem_nodes _)
        intro hEmpty
        simp [Relation.isEmptyGrouping, hEmpty] at hRoot
      exact ⟨_, by rw [ofRelation, hp]; rfl, hd.addGrouping id keys metrics having hItems⟩
  | limit id input count offset ih =>
      obtain ⟨p, hp, hd⟩ := ih hUnion fun m hm => hGroup m (List.mem_cons_of_mem _ hm)
      exact ⟨_, by rw [ofRelation, hp]; rfl, hd.addLimit id count offset⟩
  | distinct id input ih =>
      obtain ⟨p, hp, hd⟩ := ih hUnion fun m hm => hGroup m (List.mem_cons_of_mem _ hm)
      exact ⟨_, by rw [ofRelation, hp]; rfl, hd.addDistinct id⟩
  | union => simp [Relation.containsUnion] at hUnion

/-- Numbers as rows: the least rows stay when a limit counts upwards, and a predicate compares a row
with a literal. -/
def Interpretation.numbers : Interpretation Nat where
  base _ := ⟨{3, 1, 4, 1, 5}, []⟩
  holds
    | .literal (.int n), row => n < row
    | _, _ => true
  project es rows := rows.map (· + es.length)
  group keys _ _ rows := rows.dedup.map (· + keys.length)
  dedup rows := rows.dedup
  limit count offset b := { b with rows := ((b.rows.sort (· ≤ ·)).drop offset).take count }

/-- A filter over a limit, which must not slip below it, with a sort and repeated rows around. -/
def Relation.filteredLimit : Relation :=
  .distinct 6 (.selection 5 (.limit 4 (.selection 3 (.selection 2 (.table 1 "t" ⟨[]⟩) []
    [.literal (.int 1)] []) [] [] [Expr.null.desc]) 2 0) [] [.literal (.int 3)] [])

theorem SelectPlan.denote_toRelation_filteredLimit :
    Relation.filteredLimit.containsUnion = false ∧
      (∀ m ∈ Relation.filteredLimit.nodes, m.isEmptyGrouping = false) ∧
      ∃ p, SelectPlan.ofRelation Relation.filteredLimit = .ok p ∧
        Interpretation.numbers.denote p.toRelation =
          Interpretation.numbers.denote Relation.filteredLimit := by
  have hUnion : Relation.filteredLimit.containsUnion = false := rfl
  have hGroup : ∀ m ∈ Relation.filteredLimit.nodes, m.isEmptyGrouping = false := by
    simp [Relation.filteredLimit, Relation.nodes, Relation.isEmptyGrouping]
  exact ⟨hUnion, hGroup,
    SelectPlan.denote_toRelation_ofRelation Interpretation.numbers _ hUnion hGroup⟩

end TableQuery
