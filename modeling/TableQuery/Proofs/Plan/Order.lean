import Mathlib.Logic.Relation
import TableQuery.Expr.Build
import TableQuery.Proofs.Scope.Select

/-!
# Order — where the sort keys in force end up

An operation that starts a derived table leaves the order of its input inside. The keys in force
over a relation are therefore the sort keys of its own plan, or, if that plan sorts nothing, those
of the first derived table below that has any.
-/

namespace TableQuery

/-- The sort keys in force over the rows of a relation: those of the last operation that sorts,
unless rows have been joined or grouped since. -/
def Relation.keysInForce : Relation → List (SortKey Expr)
  | .selection _ input _ _ sortKeys => if sortKeys.isEmpty then input.keysInForce else sortKeys
  | .limit _ input _ _ => input.keysInForce
  | .distinct _ input => input.keysInForce
  | .table .. | .selfReference .. | .sqlQuery .. | .aggregation .. | .join .. | .union .. => []

namespace SelectPlan

/-- The statement of the first relation sorts nothing, and takes its rows from the second as a
derived table. -/
def LeavesOrderTo (r s : Relation) : Prop :=
  ∃ p, ofRelation r = .ok p ∧ p.sortKeys = [] ∧ p.source = s ∧ s.derived? = some s

/-- The keys are those of the statement of a relation, or of a derived table that the statement
leaves the order to. -/
def Ordered (r : Relation) (keys : List (SortKey Expr)) : Prop :=
  ∃ s q, Relation.ReflTransGen LeavesOrderTo r s ∧ ofRelation s = .ok q ∧ q.sortKeys = keys

/-- The keys are the plan's own, or the plan has none and leaves the order to a derived table. -/
def KeepsOrder (p : SelectPlan) (keys : List (SortKey Expr)) : Prop :=
  p.sortKeys = keys ∨
    (p.sortKeys = [] ∧ p.source.derived? = some p.source ∧ Ordered p.source keys)

variable {p q : SelectPlan} {r input : Relation} {keys : List (SortKey Expr)}

theorem KeepsOrder.ordered (h : p.KeepsOrder keys) (hPlan : ofRelation r = .ok p) :
    Ordered r keys := by
  rcases h with hOwn | ⟨hNone, hDerived, s, q, hLeft, hq, hKeys⟩
  · exact ⟨r, p, .refl, hPlan, hOwn⟩
  · have hStep : LeavesOrderTo r p.source := ⟨p, hPlan, hNone, rfl, hDerived⟩
    exact ⟨s, q, hLeft.head hStep, hq, hKeys⟩

/-- What the keys become depends on the source of a plan and on its sort keys only. -/
theorem KeepsOrder.of_eq (h : p.KeepsOrder keys) (hKeys : q.sortKeys = p.sortKeys)
    (hSource : q.source = p.source) : q.KeepsOrder keys := by
  unfold KeepsOrder
  rw [hKeys, hSource]
  exact h

/-- A plan that is limited or deduplicated is not simple. -/
theorem not_isSimple_of_cut (h : (p.limit.isSome || p.distinct) = true) : p.isSimple = false := by
  rcases Bool.or_eq_true_iff.1 h with hLimit | hDistinct
  · have hNot : p.limit.isNone = false := Option.isNone_eq_false_iff.2 hLimit
    simp [isSimple, hNot]
  · simp [isSimple, hDistinct]

/-- A new plan over a relation leaves the order to the statement of that relation. -/
theorem KeepsOrder.ofSource (h : p.KeepsOrder keys) (hPlan : ofRelation input = .ok p)
    (hNot : p.isSimple = false) : (ofSource input).KeepsOrder keys :=
  .inr ⟨rfl, derived?_of_not_isSimple hPlan hNot, h.ordered hPlan⟩

theorem KeepsOrder.simpleOr (h : p.KeepsOrder keys) (hPlan : ofRelation input = .ok p) :
    (p.simpleOr input).KeepsOrder keys := by
  unfold SelectPlan.simpleOr
  split
  · exact h
  · next hNot => exact h.ofSource hPlan (by simpa using hNot)

/-- Sorting replaces the keys, and sorting by nothing leaves them. -/
theorem KeepsOrder.resort (h : p.KeepsOrder keys) {sortKeys : List (SortKey Expr)}
    (hKeys : q.sortKeys = if sortKeys.isEmpty then p.sortKeys else sortKeys)
    (hSource : q.source = p.source) :
    q.KeepsOrder (if sortKeys.isEmpty then keys else sortKeys) := by
  cases sortKeys with
  | nil => exact h.of_eq hKeys hSource
  | cons k ks => exact .inl hKeys

/-- Planning keeps the order in force, one kind of relation at a time. -/
theorem keepsOrder_ofRelation (hPlan : ofRelation r = .ok p) : p.KeepsOrder r.keysInForce := by
  -- the invariant is about the plan, so each case only has to look at what its operation adds
  induction r generalizing p with
  | table | selfReference | sqlQuery | join =>
      cases hPlan
      exact .inl rfl
  | selection id input projections predicates sortKeys ih =>
      rcases of_map_ok hPlan with ⟨q, hq, rfl⟩
      rw [Relation.keysInForce]
      unfold addSelection
      simp only
      split
      · exact (ih hq).resort rfl rfl
      · exact ((ih hq).simpleOr hq).resort rfl rfl
  | aggregation id input groupKeys metrics having =>
      -- grouping forgets the keys, and none are in force after it
      rcases of_map_ok hPlan with ⟨q, hq, rfl⟩
      exact .inl rfl
  | limit id input count offset ih =>
      rcases of_map_ok hPlan with ⟨q, hq, rfl⟩
      have hInput := ih hq
      unfold addLimit
      split
      · next hLimit =>
        -- a second limit starts over, so the keys stay in the statement below
        have hNot : q.isSimple = false := not_isSimple_of_cut (by simp [hLimit])
        exact (hInput.ofSource hq hNot).of_eq rfl rfl
      · exact hInput.of_eq rfl rfl
  | distinct id input ih =>
      rcases of_map_ok hPlan with ⟨q, hq, rfl⟩
      have hInput := ih hq
      unfold addDistinct
      split
      · next hCut => exact (hInput.ofSource hq (not_isSimple_of_cut hCut)).of_eq rfl rfl
      · exact hInput.of_eq rfl rfl
  | union => cases hPlan

/-- A relation without unions has a plan, whose sort keys are those in force, unless it has none and
selects from a derived table alone; then the keys in force are those of the first statement, going
down from one derived table to the next, that does not leave the order to another. -/
theorem order_kept (r : Relation) (hUnion : r.containsUnion = false) :
    ∃ p, ofRelation r = .ok p ∧ p.KeepsOrder r.keysInForce := by
  rcases exists_ofRelation hUnion with ⟨p, hPlan⟩
  exact ⟨p, hPlan, keepsOrder_ofRelation hPlan⟩

end SelectPlan

/-- The first rows of a table in order, and fewer of them. -/
def Relation.firstOfFirst : Relation :=
  .limit 4
    (.limit 3
      (.selection 2 (.table 1 "t" ⟨[⟨"a", .string, true⟩]⟩) [] []
        [(Expr.column ⟨⟨1, .table⟩, "a"⟩).asc])
      10 0)
    5 0

theorem SelectPlan.order_kept_firstOfFirst :
    Relation.firstOfFirst.containsUnion = false ∧
      ∃ p, ofRelation Relation.firstOfFirst = .ok p ∧
        p.KeepsOrder [(Expr.column ⟨⟨1, .table⟩, "a"⟩).asc] := by
  have hUnion : Relation.firstOfFirst.containsUnion = false := rfl
  exact ⟨hUnion, order_kept Relation.firstOfFirst hUnion⟩

/-- A limit over a limited relation in order: the order is that of the derived table alone, and the
statement around it has none. -/
theorem SelectPlan.order_left_inside :
    Relation.firstOfFirst.containsUnion = false ∧
      (∃ p, ofRelation Relation.firstOfFirst = .ok p ∧ p.sortKeys = []) ∧
      Relation.firstOfFirst.keysInForce = [(Expr.column ⟨⟨1, .table⟩, "a"⟩).asc] ∧
      Dialect.standard.compile Relation.firstOfFirst =
        .ok "SELECT *\nFROM (\n  SELECT *\n  FROM t\n  ORDER BY a\n  LIMIT 10\n) t0\nLIMIT 5" := by
  refine ⟨rfl, ⟨_, rfl, rfl⟩, rfl, ?_⟩
  decide +kernel

end TableQuery
