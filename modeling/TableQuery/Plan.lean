import TableQuery.Relation
import TableQuery.SqlError

/-!
# Planning

Partitions a relational tree into `SELECT` statements. A plan is one statement: what stands in its
`FROM` clause, and the clauses around it. Each operator of the tree either adds a clause to the plan
of its input, or starts a new plan over that input as a derived table.
-/

namespace TableQuery

/-- How many rows are kept, and how many are skipped before them. -/
structure RowLimit where
  count : Nat
  offset : Nat
  deriving DecidableEq, Repr

/-- One `SELECT` statement. -/
structure SelectPlan where
  /-- What the `FROM` clause holds: a table, a join tree, raw SQL or a derived table. -/
  source : Relation
  /-- The columns to produce; none means all columns of the source. -/
  items : List Expr
  distinct : Bool
  predicates : List Expr
  groupKeys : List Expr
  having : List Expr
  sortKeys : List (SortKey Expr)
  limit : Option RowLimit
  /-- Selections without columns of their own that have become clauses of this statement. -/
  folded : List Relation
  /-- The relation whose columns are the items, so that later clauses can name them. -/
  output : Option Relation

namespace SelectPlan

/-- The plan that produces all rows and columns of a source. -/
def ofSource (source : Relation) : SelectPlan :=
  { source, items := [], distinct := false, predicates := [], groupKeys := [], having := [],
    sortKeys := [], limit := none, folded := [], output := none }

/-- Whether the plan has only a source, filters and a row order, so that other clauses can be
added. -/
def isSimple (p : SelectPlan) : Bool :=
  p.items.isEmpty && p.groupKeys.isEmpty && p.having.isEmpty && p.limit.isNone && !p.distinct

/-- Whether rows are grouped. -/
def isGrouped (p : SelectPlan) : Bool :=
  !p.groupKeys.isEmpty || !p.having.isEmpty

/-- The plan itself if it is simple, or else one over its whole input. -/
def simpleOr (p : SelectPlan) (input : Relation) : SelectPlan :=
  if p.isSimple then p else ofSource input

/-- Adds a selection, the relation `whole`, to the plan of its input. Sorting alone follows anything
that is neither limited nor made distinct; all else needs a simple plan. -/
def addSelection (p : SelectPlan) (whole input : Relation) (projections predicates : List Expr)
    (sortKeys : List (SortKey Expr)) : SelectPlan :=
  let sortOnly := projections.isEmpty && predicates.isEmpty
  if sortOnly && p.limit.isNone && !p.distinct then
    { p with
      sortKeys := if sortKeys.isEmpty then p.sortKeys else sortKeys
      folded := p.folded ++ [whole] }
  else
    let q := p.simpleOr input
    { q with
      items := projections
      predicates := q.predicates ++ predicates
      sortKeys := if sortKeys.isEmpty then q.sortKeys else sortKeys
      folded := if projections.isEmpty then q.folded ++ [whole] else q.folded
      output := if projections.isEmpty then q.output else some whole }

/-- Adds a grouping, the relation `whole`, to the plan of its input. The order of rows does not
outlive it. -/
def addGrouping (p : SelectPlan) (whole input : Relation) (keys metrics having : List Expr) :
    SelectPlan :=
  { p.simpleOr input with
    sortKeys := []
    items := keys ++ metrics
    groupKeys := keys
    having := having
    output := some whole }

/-- Adds a limit to the plan of its input; a limited input becomes a derived table. -/
def addLimit (p : SelectPlan) (input : Relation) (count offset : Nat) : SelectPlan :=
  { (if p.limit.isSome then ofSource input else p) with limit := some ⟨count, offset⟩ }

/-- Drops repeated rows; an input that is limited or distinct becomes a derived table. -/
def addDistinct (p : SelectPlan) (input : Relation) : SelectPlan :=
  { (if p.limit.isSome || p.distinct then ofSource input else p) with distinct := true }

def ofRelation : Relation → Except SqlError SelectPlan
  | .table id name schema => .ok (ofSource (.table id name schema))
  | .selfReference id target => .ok (ofSource (.selfReference id target))
  | .sqlQuery id query schema => .ok (ofSource (.sqlQuery id query schema))
  | .join id kind left right predicates => .ok (ofSource (.join id kind left right predicates))
  | .selection id input projections predicates sortKeys =>
    (ofRelation input).map fun p =>
      p.addSelection (.selection id input projections predicates sortKeys) input projections
        predicates sortKeys
  | .aggregation id input keys metrics having =>
    (ofRelation input).map fun p =>
      p.addGrouping (.aggregation id input keys metrics having) input keys metrics having
  | .limit _ input count offset => (ofRelation input).map fun p => p.addLimit input count offset
  | .distinct _ input => (ofRelation input).map fun p => p.addDistinct input
  | .union .. => .error SqlError.unionUnsupported

end SelectPlan

end TableQuery
