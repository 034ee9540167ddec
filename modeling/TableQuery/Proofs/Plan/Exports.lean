import TableQuery.Proofs.Plan.Columns
import TableQuery.Proofs.Plan.Nested
import TableQuery.Sql.Statement

/-!
# Exports — the columns that a statement gives out and those that are declared

A statement without a select list gives out all columns of what it selects from. A relation declares
its columns by a recursion of its own, which knows nothing of plans, and the scope around a derived
table goes by what is declared. The two agree (`SelectPlan.outputNames_of_ofRelation`) but for one
relation: a grouping by nothing that computes nothing declares no columns, and its statement, having
no select list, gives out all of them.
-/

namespace TableQuery

/-- Whether the relation groups by nothing and computes nothing. -/
def Relation.isVacantGrouping : Relation → Bool
  | .aggregation _ _ keys metrics _ => keys.isEmpty && metrics.isEmpty
  | _ => false

namespace SelectPlan

/-- The names of the columns that the statement of a plan gives out: those of its items that have
one, or those of what it selects from where it has no items. -/
def outputNames (p : SelectPlan) : List String :=
  if p.items.isEmpty then p.source.columnNames else p.items.filterMap Expr.outputName?

variable {p : SelectPlan} {r input : Relation}

/-- The output of the plan is a grouping of nothing, or the plan has items. -/
structure Lists (p : SelectPlan) : Prop where
  items : ∀ w ∈ p.output, p.items = [] ↔ w.isVacantGrouping = true

theorem lists_of_none (h : p.output = none) : p.Lists where
  items w hw := by
    rw [h] at hw
    cases hw

theorem lists_of_some {w : Relation} (h : p.output = some w)
    (hItems : p.items = [] ↔ w.isVacantGrouping = true) : p.Lists where
  items w' hw' := by
    rw [h] at hw'
    cases hw'
    exact hItems

/-- What a plan lists depends on its items and its output only. -/
theorem Lists.of_eq {q : SelectPlan} (h : p.Lists) (hItems : q.items = p.items)
    (hOutput : q.output = p.output) : q.Lists where
  items := by
    rw [hItems, hOutput]
    exact h.items

theorem Lists.simpleOr (h : p.Lists) (input : Relation) : (p.simpleOr input).Lists := by
  unfold SelectPlan.simpleOr
  split
  · exact h
  · exact lists_of_none rfl

theorem lists_ofRelation (h : ofRelation r = .ok p) : p.Lists := by
  -- only groupings and selections with a list set the output and the items, both at once
  induction r generalizing p with
  | table | selfReference | sqlQuery | join =>
      cases h
      exact lists_of_none rfl
  | selection id input projections predicates sortKeys ih =>
      rcases of_map_ok h with ⟨q, hq, rfl⟩
      have hInput := ih hq
      by_cases hSorts : projections = [] ∧ predicates = [] ∧ q.IsOpen
      · rcases hSorts with ⟨rfl, rfl, hOpen⟩
        rw [addSelection_of_isOpen hOpen]
        exact hInput.of_eq rfl rfl
      · rw [addSelection_of_not hSorts]
        cases projections with
        | nil =>
            -- a simple plan has no items, so leaving the list empty changes nothing
            have hItems := (isSimple_iff.1 (q.isSimple_simpleOr input)).1
            exact (hInput.simpleOr input).of_eq hItems.symm rfl
        | cons e es => exact lists_of_some rfl (by simp [Relation.isVacantGrouping])
  | aggregation id input keys metrics having =>
      rcases of_map_ok h with ⟨q, hq, rfl⟩
      exact lists_of_some rfl (by simp [Relation.isVacantGrouping, addGrouping])
  | limit id input count offset ih =>
      rcases of_map_ok h with ⟨q, hq, rfl⟩
      unfold addLimit
      split
      · exact lists_of_none rfl
      · exact (ih hq).of_eq rfl rfl
  | distinct id input ih =>
      rcases of_map_ok h with ⟨q, hq, rfl⟩
      unfold addDistinct
      split
      · exact lists_of_none rfl
      · exact (ih hq).of_eq rfl rfl
  | union => cases h

/-- A plan that shows a relation gives out what the relation declares, unless its output has an
empty list of items. -/
theorem Shows.outputNames_eq (h : p.Shows r) (hLists : p.Lists)
    (hOutput : ∀ w ∈ p.output, w.isVacantGrouping = false) : p.outputNames = r.columnNames := by
  have hColumns := h.columns
  cases hOut : p.output with
  | none =>
      rw [hOut, Option.getD_none] at hColumns
      rw [outputNames, h.bare hOut, hColumns]
      rfl
  | some w =>
      have hItems : p.items.isEmpty = false := by
        rw [Bool.eq_false_iff, ne_eq, List.isEmpty_iff, hLists.items w hOut]
        simp [hOutput w hOut]
      rw [hOut, Option.getD_some, h.outputs w hOut] at hColumns
      rw [outputNames, hItems, hColumns]
      rfl

/-- The statement of a relation gives out exactly the columns that the relation declares, unless its
output is a grouping of nothing: then no columns are declared, and all those of the source are given
out. So the two differ exactly if the output is such a grouping and the source has columns, and
agree in every tree without one. What stands in a `FROM` clause as the statement of a relation is
recorded with the columns that the relation declares. -/
theorem outputNames_of_ofRelation (h : ofRelation r = .ok p) :
    (p.outputNames = r.columnNames ↔
      (∀ w ∈ p.output, w.isVacantGrouping = false) ∨ p.source.columnNames = []) ∧
    (∀ w ∈ p.output, w.isVacantGrouping = true →
      r.columnNames = [] ∧ p.outputNames = p.source.columnNames) ∧
    ((∀ m ∈ r.nodes, m.isVacantGrouping = false) → p.outputNames = r.columnNames) ∧
    ∀ t : Relation, t.derived? = some r → t.columnNames = r.columnNames := by
  have hShows := shows_ofRelation h
  have hLists := lists_ofRelation h
  have hVacant : ∀ w ∈ p.output, w.isVacantGrouping = true →
      r.columnNames = [] ∧ p.outputNames = p.source.columnNames := by
    intro w hw hVacant
    have hItems := (hLists.items w hw).2 hVacant
    have hColumns := hShows.columns
    rw [hw, Option.getD_some, hShows.outputs w hw, hItems] at hColumns
    exact ⟨hColumns, by rw [outputNames, hItems]; rfl⟩
  refine ⟨⟨fun hAgree => ?_, ?_⟩, hVacant, fun hNodes => ?_, fun t ht => ?_⟩
  · rw [or_iff_not_imp_left]
    intro hSome
    push Not at hSome
    rcases hSome with ⟨w, hw, hGrouping⟩
    rcases hVacant w hw (by simpa using hGrouping) with ⟨hNone, hAll⟩
    rw [← hAll, hAgree, hNone]
  · rintro (hOutput | hSource)
    · exact hShows.outputNames_eq hLists hOutput
    · by_cases hOutput : ∀ w ∈ p.output, w.isVacantGrouping = false
      · exact hShows.outputNames_eq hLists hOutput
      · push Not at hOutput
        rcases hOutput with ⟨w, hw, hGrouping⟩
        rcases hVacant w hw (by simpa using hGrouping) with ⟨hNone, hAll⟩
        rw [hAll, hSource, hNone]
  · refine hShows.outputNames_eq hLists fun w hw => ?_
    exact hNodes w (outputApart_ofRelation h w hw).1
  · rcases Relation.cases_of_derived ht with rfl | ⟨id, rfl⟩
    · rfl
    · rfl

end SelectPlan

/-- The first rows of a table that is grouped by nothing, without anything being computed. -/
def Relation.firstOfNothing : Relation :=
  let t : Relation := .table 1 "t" ⟨[⟨"a", .string, true⟩]⟩
  .limit 3 (.aggregation 2 t [] [] []) 5 0

/-- Its statement gives out the column of the table, but it declares none, so that the column cannot
be named around it. -/
theorem SelectPlan.outputNames_undeclared :
    (ofRelation Relation.firstOfNothing).map outputNames = .ok ["a"] ∧
    Relation.firstOfNothing.columnNames = [] ∧
    Dialect.standard.compile Relation.firstOfNothing = .ok "SELECT *\nFROM t\nLIMIT 5" ∧
    Dialect.standard.compile
      (.selection 4 Relation.firstOfNothing [.column ⟨⟨3, .limit⟩, "a"⟩] [] []) =
        .error (.columnNotFound "a" []) := by
  decide +kernel

theorem SelectPlan.outputNames_of_ofRelation_firstOfNothing :
    ∃ p, ofRelation Relation.firstOfNothing = .ok p ∧
      p.output.map Relation.isVacantGrouping = some true ∧
      Relation.firstOfNothing.columnNames = [] ∧ p.outputNames = p.source.columnNames := by
  rcases outputNames_of_ofRelation (r := Relation.firstOfNothing) rfl with ⟨-, hVacant, -⟩
  exact ⟨_, rfl, rfl, hVacant _ rfl rfl⟩

end TableQuery
