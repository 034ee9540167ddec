import TableQuery.Proofs.Plan.Meaning
import TableQuery.Proofs.Plan.Parts

/-!
# Columns — where a plan has the columns of its relation

The columns of a relation are those of the select list of its statement, if there is one, and those
of the source of its plan otherwise. The relation itself is the output of its plan, its source, or
one of the selections that were folded into it.
-/

namespace TableQuery

/-- Whether the statement of a relation has a select list and nothing after it but an order. -/
def Relation.hasOwnColumns : Relation → Bool
  | .selection _ input projections predicates _ =>
    !projections.isEmpty || (predicates.isEmpty && input.hasOwnColumns)
  | .aggregation _ _ keys metrics _ => !(keys ++ metrics).isEmpty
  | _ => false

/-- Whether a relation does nothing but sort the rows of a statement that has a select list. -/
def Relation.resorts : Relation → Bool
  | .selection _ input projections predicates _ =>
    projections.isEmpty && predicates.isEmpty && input.hasOwnColumns
  | _ => false

namespace SelectPlan

variable {p : SelectPlan} {r input : Relation}

/-! ## The columns of a plan -/

/-- The plan has the columns of the relation: those of its output, which are its items, or those of
its source. -/
structure Shows (p : SelectPlan) (r : Relation) : Prop where
  columns : r.columnNames = (p.output.getD p.source).columnNames
  outputs : ∀ w ∈ p.output, w.columnNames = p.items.filterMap Expr.outputName?
  bare : p.output = none → p.items = []

theorem shows_ofSource (r : Relation) : (ofSource r).Shows r where
  columns := rfl
  outputs w hw := by cases hw
  bare _ := rfl

theorem isSimple_simpleOr (p : SelectPlan) (input : Relation) :
    (p.simpleOr input).isSimple = true := by
  unfold simpleOr
  split
  · assumption
  · rfl

theorem Shows.simpleOr (h : p.Shows input) : (p.simpleOr input).Shows input := by
  unfold SelectPlan.simpleOr
  split
  · exact h
  · exact shows_ofSource input

/-- What a plan shows depends on its source, its items and its output only. -/
theorem Shows.of_eq {q : SelectPlan} (h : p.Shows input)
    (hColumns : r.columnNames = input.columnNames) (hSource : q.source = p.source)
    (hItems : q.items = p.items) (hOutput : q.output = p.output) : q.Shows r where
  columns := by rw [hColumns, h.columns, hSource, hOutput]
  outputs := by rw [hItems, hOutput]; exact h.outputs
  bare := by rw [hItems, hOutput]; exact h.bare

/-- A plan with a select list shows the relation that the list belongs to. -/
theorem shows_of_output (hOutput : p.output = some r)
    (hColumns : r.columnNames = p.items.filterMap Expr.outputName?) : p.Shows r where
  columns := by rw [hOutput]; rfl
  outputs w hw := by
    rw [hOutput] at hw
    cases hw
    exact hColumns
  bare hNone := by
    rw [hOutput] at hNone
    cases hNone

theorem shows_ofRelation (h : ofRelation r = .ok p) : p.Shows r := by
  induction r generalizing p with
  | table | selfReference | sqlQuery | join =>
      cases h
      exact shows_ofSource _
  | selection id input projections predicates sortKeys ih =>
      rcases of_map_ok h with ⟨q, hq, rfl⟩
      unfold addSelection
      simp only
      split
      · next hSorts =>
        -- only the order changes
        have hBare : projections.isEmpty = true := by
          simp only [Bool.and_eq_true] at hSorts
          exact hSorts.1.1.1
        exact (ih hq).of_eq (by rw [Relation.columnNames, if_pos hBare]) rfl rfl rfl
      · cases projections with
        | nil =>
            have hItems := (isSimple_iff.1 (q.isSimple_simpleOr input)).1
            exact (ih hq).simpleOr.of_eq rfl rfl hItems.symm rfl
        | cons e es => exact shows_of_output rfl rfl
  | aggregation id input keys metrics having =>
      rcases of_map_ok h with ⟨q, hq, rfl⟩
      exact shows_of_output rfl rfl
  | limit id input count offset ih =>
      rcases of_map_ok h with ⟨q, hq, rfl⟩
      unfold addLimit
      split
      · exact (shows_ofSource input).of_eq rfl rfl rfl rfl
      · exact (ih hq).of_eq rfl rfl rfl rfl
  | distinct id input ih =>
      rcases of_map_ok h with ⟨q, hq, rfl⟩
      unfold addDistinct
      split
      · exact (shows_ofSource input).of_eq rfl rfl rfl rfl
      · exact (ih hq).of_eq rfl rfl rfl rfl
  | union => cases h

/-! ## The place of the relation in its plan -/

/-- A plan can be extended by sorting alone if nothing has been cut off or dropped. -/
def IsOpen (p : SelectPlan) : Prop :=
  p.limit = none ∧ p.distinct = false

theorem isOpen_of_isSimple (h : p.isSimple = true) : p.IsOpen := by
  rcases isSimple_iff.1 h with ⟨-, -, -, hLimit, hDistinct⟩
  exact ⟨hLimit, hDistinct⟩

/-- Sorting alone becomes part of an open plan. -/
theorem addSelection_of_isOpen (h : p.IsOpen) (whole : Relation) (sortKeys : List (SortKey Expr)) :
    p.addSelection whole input [] [] sortKeys =
      { p with
        sortKeys := if sortKeys.isEmpty then p.sortKeys else sortKeys
        folded := p.folded ++ [whole] } := by
  unfold addSelection
  simp [h.1, h.2]

/-- Anything but sorting an open plan is added to a simple plan. -/
theorem addSelection_of_not {whole : Relation} {projections predicates : List Expr}
    {sortKeys : List (SortKey Expr)}
    (h : ¬(projections = [] ∧ predicates = [] ∧ p.IsOpen)) :
    p.addSelection whole input projections predicates sortKeys =
      { p.simpleOr input with
        items := projections
        predicates := (p.simpleOr input).predicates ++ predicates
        sortKeys := if sortKeys.isEmpty then (p.simpleOr input).sortKeys else sortKeys
        folded := if projections.isEmpty then (p.simpleOr input).folded ++ [whole]
          else (p.simpleOr input).folded
        output := if projections.isEmpty then (p.simpleOr input).output else some whole } := by
  unfold addSelection
  simp only
  rw [if_neg]
  simpa [IsOpen, and_assoc] using h

/-- The statement of a relation has a select list and can still be sorted. -/
theorem hasOwnColumns_iff (h : ofRelation r = .ok p) :
    r.hasOwnColumns = true ↔ p.items ≠ [] ∧ p.IsOpen := by
  induction r generalizing p with
  | table | selfReference | sqlQuery | join =>
      cases h
      simp [Relation.hasOwnColumns, ofSource]
  | selection id input projections predicates sortKeys ih =>
      rcases of_map_ok h with ⟨q, hq, rfl⟩
      have hInput := ih hq
      by_cases hSorts : projections = [] ∧ predicates = [] ∧ q.IsOpen
      · rcases hSorts with ⟨rfl, rfl, hOpen⟩
        rw [addSelection_of_isOpen hOpen]
        simpa [Relation.hasOwnColumns, IsOpen] using hInput
      · have hOpen := isOpen_of_isSimple (q.isSimple_simpleOr input)
        rw [addSelection_of_not hSorts]
        cases projections with
        | nil =>
            -- a condition, or a new start over an input that cannot be sorted any more
            have hNot : ¬(predicates = [] ∧ input.hasOwnColumns = true) := by
              rintro ⟨hNone, hOwn⟩
              exact hSorts ⟨rfl, hNone, (hInput.1 hOwn).2⟩
            simpa [Relation.hasOwnColumns] using hNot
        | cons e es => simpa [Relation.hasOwnColumns, IsOpen] using hOpen
  | aggregation id input keys metrics having ih =>
      rcases of_map_ok h with ⟨q, hq, rfl⟩
      have hOpen := isOpen_of_isSimple (q.isSimple_simpleOr input)
      simp only [Relation.hasOwnColumns, addGrouping, IsOpen]
      simp [hOpen.1, hOpen.2]
  | limit id input count offset ih =>
      rcases of_map_ok h with ⟨q, hq, rfl⟩
      simp [Relation.hasOwnColumns, addLimit, IsOpen]
  | distinct id input ih =>
      rcases of_map_ok h with ⟨q, hq, rfl⟩
      simp [Relation.hasOwnColumns, addDistinct, IsOpen]
  | union => cases h

/-- The relation is the output of its open plan, or its columns are those of the source and it is
the source or folded into the plan, or it sorts the rows of a statement with a select list. -/
theorem place_of_isOpen (h : ofRelation r = .ok p) (hOpen : p.IsOpen) :
    p.output = some r ∨ (p.items = [] ∧ (r ∈ p.folded ∨ r = p.source)) ∨ r.resorts = true := by
  cases r with
  | table | selfReference | sqlQuery | join =>
      cases h
      exact .inr (.inl ⟨rfl, .inr rfl⟩)
  -- no induction: a second sort is told apart by what the input's plan looks like
  | selection id input projections predicates sortKeys =>
      rcases of_map_ok h with ⟨q, hq, rfl⟩
      by_cases hSorts : projections = [] ∧ predicates = [] ∧ q.IsOpen
      · rcases hSorts with ⟨rfl, rfl, hInner⟩
        rw [addSelection_of_isOpen hInner]
        by_cases hItems : q.items = []
        · exact .inr (.inl ⟨hItems, .inl (by simp)⟩)
        · have hOwn := (hasOwnColumns_iff hq).2 ⟨hItems, hInner⟩
          exact .inr (.inr (by simpa [Relation.resorts] using hOwn))
      · rw [addSelection_of_not hSorts]
        cases projections with
        | nil => exact .inr (.inl ⟨rfl, .inl (by simp)⟩)
        | cons e es => exact .inl rfl
  | aggregation id input keys metrics having =>
      rcases of_map_ok h with ⟨q, hq, rfl⟩
      exact .inl rfl
  | limit id input count offset =>
      rcases of_map_ok h with ⟨q, hq, rfl⟩
      cases hOpen.1
  | distinct id input =>
      rcases of_map_ok h with ⟨q, hq, rfl⟩
      cases hOpen.2
  | union => cases h

/-- A relation that only sorts the rows of a statement is folded into the plan of the statement. It
is neither the output of the plan nor any part of its source. -/
theorem of_resorts (h : ofRelation r = .ok p) (hr : r.resorts = true) :
    p.IsOpen ∧ p.items ≠ [] ∧ r ∈ p.folded ∧ p.output ≠ some r ∧ r ∉ p.source.nodes := by
  cases r with
  | selection id input projections predicates sortKeys =>
      rcases of_map_ok h with ⟨q, hq, rfl⟩
      simp only [Relation.resorts, Bool.and_eq_true, List.isEmpty_iff] at hr
      rcases hr with ⟨⟨rfl, rfl⟩, hOwn⟩
      rcases (hasOwnColumns_iff hq).1 hOwn with ⟨hItems, hOpen⟩
      rw [addSelection_of_isOpen hOpen]
      have hApart : Relation.selection id input [] [] sortKeys ∉ input.nodes :=
        Relation.notMem_nodes_of_mem_inputs (by simp [Relation.inputs])
      -- the output and the source of the input's plan are made from nodes of the input
      exact ⟨hOpen, hItems, by simp, fun hOutput => hApart (outputApart_ofRelation hq _ hOutput).1,
        fun hSource => hApart ((drawnFrom_ofRelation hq).source hSource)⟩
  | _ => cases hr

/-- Without a select list, the columns of a relation are those of the source of its plan. -/
theorem Shows.of_items_nil (h : p.Shows r) (hItems : p.items = []) {name : String}
    (hName : name ∈ r.columnNames) : p.output = none ∧ r.columnNames = p.source.columnNames := by
  cases hOutput : p.output with
  | none => exact ⟨rfl, by rw [h.columns, hOutput]; rfl⟩
  | some w =>
      have hNone := h.outputs w hOutput
      have hColumns := h.columns
      rw [hOutput] at hColumns
      rw [hColumns, Option.getD_some, hNone, hItems] at hName
      cases hName

/-- A relation with columns is part of the clause of the simple plan that is made over it. -/
theorem place_simpleOr (h : ofRelation r = .ok p) {name : String} (hName : name ∈ r.columnNames) :
    r ∈ (p.simpleOr r).folded ∨ r = (p.simpleOr r).source := by
  unfold simpleOr
  split
  · next hSimple =>
    have hItems := (isSimple_iff.1 hSimple).1
    rcases place_of_isOpen h (isOpen_of_isSimple hSimple) with hOutput | ⟨-, hPlace⟩ | hSorts
    · rw [((shows_ofRelation h).of_items_nil hItems hName).1] at hOutput
      cases hOutput
    · exact hPlace
    · exact absurd hItems (of_resorts h hSorts).2.1
  · exact .inr rfl

/-- The simple plan over a relation with columns shows those of the tables. -/
theorem output_simpleOr (h : ofRelation r = .ok p) {name : String} (hName : name ∈ r.columnNames) :
    (p.simpleOr r).output = none := by
  have hItems := (isSimple_iff.1 (p.isSimple_simpleOr r)).1
  exact ((shows_ofRelation h).simpleOr.of_items_nil hItems hName).1

end SelectPlan

/-! ## The columns of a join chain -/

theorem JoinChain.columnNames_ofRelation {d : Dialect} {r : Relation} {c : JoinChain}
    (h : ofRelation d r = .ok c) : r.columnNames = c.tables.flatMap Relation.columnNames := by
  induction r generalizing c with
  | join id kind left right predicates ihLeft =>
      rcases of_ofRelation_join h with ⟨-, c', hc', rfl⟩
      rw [Relation.columnNames, ihLeft hc']
      simp [tables, append]
  | _ =>
      cases h
      simp [tables]

/-- A name that is given once among the columns of tables is a column of one table only. -/
theorem exists_singleton_of_count {tables : List Relation} {name : String}
    (h : (tables.flatMap Relation.columnNames).count name = 1) :
    ∃ t ∈ tables, tables.filter (·.columnNames.contains name) = [t] := by
  induction tables with
  | nil => cases h
  | cons t tables ih =>
      rw [List.flatMap_cons, List.count_append] at h
      by_cases hHere : name ∈ t.columnNames
      · -- the name is used up, so no table behind has it
        have hOne := List.count_pos_iff.2 hHere
        have hRest : (tables.flatMap Relation.columnNames).count name = 0 := by omega
        have hNone : tables.filter (·.columnNames.contains name) = [] := by
          rw [List.filter_eq_nil_iff]
          intro t' ht' hName
          refine List.count_eq_zero.1 hRest (List.mem_flatMap.2 ⟨t', ht', ?_⟩)
          simpa using hName
        refine ⟨t, by simp, ?_⟩
        rw [List.filter_cons_of_pos (by simpa using hHere), hNone]
      · rw [List.count_eq_zero.2 hHere, Nat.zero_add] at h
        rcases ih h with ⟨t', ht', hOnly⟩
        exact ⟨t', List.mem_cons_of_mem _ ht', by simpa [hHere] using hOnly⟩

/-- A name that the columns of a relation have once is a column of one table of its chain. -/
theorem JoinChain.exists_table_of_count {d : Dialect} {r : Relation} {c : JoinChain}
    (h : ofRelation d r = .ok c) {name : String} (hOnce : r.columnNames.count name = 1) :
    ∃ t, c.tables.filter (·.columnNames.contains name) = [t] := by
  rw [columnNames_ofRelation h] at hOnce
  rcases exists_singleton_of_count hOnce with ⟨t, -, hOnly⟩
  exact ⟨t, hOnly⟩

end TableQuery
