import TableQuery.Proofs.Relation.Nodes

/-!
# Carry — columns that are handed up unchanged

A relation carries a column of a relation below it when it has one column of that name, and this
column is the one below: every node between them either passes its input's columns through or
projects the name once, as a bare reference to that very column. A column that was computed and only
given the name is not carried.
-/

namespace TableQuery

/-- The expression is a column under its own name. -/
def Expr.IsBareReference (e : Expr) (ref : ColumnRef) : Prop :=
  e = .column ref ∨ e = .alias (.column ref) ref.name

namespace Relation

/-- The relation has one column named `n`, and it is that of the relation with the given identity,
carried up unchanged. A projected reference may name any relation of the input that itself carries
the column. -/
inductive Carries (n : String) : Origin → Relation → Prop where
  | self {r : Relation} (hOnce : r.columnNames.count n = 1) : Carries n r.origin r
  | selection {o : Origin} {input : Relation} (id : Nat) (predicates : List Expr)
      (sortKeys : List (SortKey Expr)) (hInput : Carries n o input) :
      Carries n o (.selection id input [] predicates sortKeys)
  | limit {o : Origin} {input : Relation} (id count offset : Nat) (hInput : Carries n o input) :
      Carries n o (.limit id input count offset)
  | deduplicated {o : Origin} {input : Relation} (id : Nat) (hInput : Carries n o input) :
      Carries n o (.distinct id input)
  | joinedLeft {o : Origin} {left right : Relation} (id : Nat) (kind : JoinKind)
      (predicates : List Expr) (hLeft : Carries n o left) (hRight : n ∉ right.columnNames) :
      Carries n o (.join id kind left right predicates)
  | joinedRight {o : Origin} {left right : Relation} (id : Nat) (kind : JoinKind)
      (predicates : List Expr) (hLeft : n ∉ left.columnNames) (hRight : Carries n o right) :
      Carries n o (.join id kind left right predicates)
  | projected {o : Origin} {input source : Relation} {projections : List Expr} {e : Expr} (id : Nat)
      (predicates : List Expr) (sortKeys : List (SortKey Expr)) (hItem : e ∈ projections)
      (hBare : e.IsBareReference ⟨source.origin, n⟩)
      (hOnce : (projections.filterMap Expr.outputName?).count n = 1)
      (hVisible : source ∈ input.visible) (hInput : Carries n source.origin input)
      (hSource : Carries n o source) :
      Carries n o (.selection id input projections predicates sortKeys)
  | grouped {o : Origin} {input source : Relation} {keys metrics : List Expr} {e : Expr} (id : Nat)
      (having : List Expr) (hItem : e ∈ keys ++ metrics)
      (hBare : e.IsBareReference ⟨source.origin, n⟩)
      (hOnce : ((keys ++ metrics).filterMap Expr.outputName?).count n = 1)
      (hVisible : source ∈ input.visible) (hInput : Carries n source.origin input)
      (hSource : Carries n o source) :
      Carries n o (.aggregation id input keys metrics having)

variable {n : String} {o : Origin} {r : Relation}

theorem Carries.count_eq_one (h : Carries n o r) : r.columnNames.count n = 1 := by
  induction h with
  | self hOnce => exact hOnce
  | selection id predicates sortKeys _ ih => exact ih
  | limit id count offset _ ih => exact ih
  | deduplicated id _ ih => exact ih
  | joinedLeft id kind predicates _ hRight ih =>
      rw [columnNames, List.count_append, ih, List.count_eq_zero_of_not_mem hRight]
  | joinedRight id kind predicates hLeft _ ih =>
      rw [columnNames, List.count_append, ih, List.count_eq_zero_of_not_mem hLeft]
  | @projected o input source projections e id predicates sortKeys hItem _ hOnce =>
      -- with an item to project, the columns are those of the projections
      have hSome : projections.isEmpty = false := by
        cases projections with
        | nil => cases hItem
        | cons => rfl
      rw [columnNames, hSome]
      exact hOnce
  | grouped id having hItem _ hOnce => exact hOnce

theorem Carries.mem_columnNames (h : Carries n o r) : n ∈ r.columnNames := by
  have hPositive : 0 < r.columnNames.count n := by
    rw [h.count_eq_one]
    exact Nat.one_pos
  exact List.count_pos_iff.1 hPositive

/-- The relation whose column is carried is a visible part, and has the column once. -/
theorem Carries.exists_visible (h : Carries n o r) :
    ∃ m ∈ r.visible, m.origin = o ∧ m.columnNames.count n = 1 := by
  induction h with
  | self hOnce => exact ⟨_, self_mem_visible _, rfl, hOnce⟩
  | selection id predicates sortKeys _ ih
  | limit id count offset _ ih
  | deduplicated id _ ih =>
      rcases ih with ⟨m, hm, hSource⟩
      exact ⟨m, List.mem_cons_of_mem _ hm, hSource⟩
  | joinedLeft id kind predicates _ _ ih =>
      rcases ih with ⟨m, hm, hSource⟩
      exact ⟨m, List.mem_cons_of_mem _ (List.mem_append_left _ hm), hSource⟩
  | joinedRight id kind predicates _ _ ih =>
      rcases ih with ⟨m, hm, hSource⟩
      exact ⟨m, List.mem_cons_of_mem _ (List.mem_append_right _ hm), hSource⟩
  | projected id predicates sortKeys _ _ _ hVisible _ _ _ ih
  | grouped id having _ _ _ hVisible _ _ _ ih =>
      -- the item names a visible part, and what is visible from there is visible from here
      rcases ih with ⟨m, hm, hSource⟩
      exact ⟨m, List.mem_cons_of_mem _ (visible_subset hVisible hm), hSource⟩

theorem Carries.contains (h : Carries n o r) : r.contains o = true := by
  rcases h.exists_visible with ⟨m, hm, hOrigin, -⟩
  exact contains_iff.2 ⟨m, hm, hOrigin⟩

/-- A projection carries the column of another relation only in a bare reference. -/
theorem Carries.exists_bare {id : Nat} {input : Relation} {e : Expr} {es predicates : List Expr}
    {sortKeys : List (SortKey Expr)}
    (h : (Relation.selection id input (e :: es) predicates sortKeys).Carries n o)
    (hOther : o ≠ ⟨id, .selection⟩) : ∃ item ∈ e :: es, ∃ ref, item.IsBareReference ref := by
  cases h with
  | self => exact absurd rfl hOther
  | projected _ _ _ hItem hBare => exact ⟨_, hItem, _, hBare⟩

end Relation
end TableQuery
