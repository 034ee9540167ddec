import TableQuery.Expr.Basic
import TableQuery.Schema

/-!
# Relations

Trees of relational operations. Every node carries an identity, a number that no other node of the
program has; a column reference names the node that it was taken from by that identity.
-/

namespace TableQuery

/-- The kinds of joins. -/
inductive JoinKind where
  | inner | left | right | outer | leftSemi | leftAnti | cross
  deriving DecidableEq, Repr

namespace JoinKind

def catalog : List JoinKind :=
  [.inner, .left, .right, .outer, .leftSemi, .leftAnti, .cross]

def word : JoinKind → String
  | .inner => "inner"
  | .left => "left"
  | .right => "right"
  | .outer => "outer"
  | .leftSemi => "left_semi"
  | .leftAnti => "left_anti"
  | .cross => "cross"

def ofWord? (w : String) : Option JoinKind :=
  catalog.find? (·.word == w)

end JoinKind

/-- A node of a relational tree, with its identity. -/
inductive Relation where
  | table (id : Nat) (name : String) (schema : Schema)
  /-- A second, independent reference to a relation. -/
  | selfReference (id : Nat) (target : Relation)
  /-- A query in SQL text whose columns the server has reported. -/
  | sqlQuery (id : Nat) (query : String) (schema : Schema)
  | selection (id : Nat) (input : Relation) (projections predicates : List Expr)
      (sortKeys : List (SortKey Expr))
  | aggregation (id : Nat) (input : Relation) (keys metrics having : List Expr)
  | join (id : Nat) (kind : JoinKind) (left right : Relation) (predicates : List Expr)
  | limit (id : Nat) (input : Relation) (count offset : Nat)
  | distinct (id : Nat) (input : Relation)
  | union (id : Nat) (left right : Relation) (distinct : Bool)

namespace Relation

def kind : Relation → RelationKind
  | .table .. => .table
  | .selfReference .. => .selfReference
  | .sqlQuery .. => .sqlQuery
  | .selection .. => .selection
  | .aggregation .. => .aggregation
  | .join .. => .join
  | .limit .. => .limit
  | .distinct .. => .distinct
  | .union .. => .union

def id : Relation → Nat
  | .table id _ _ => id
  | .selfReference id _ => id
  | .sqlQuery id _ _ => id
  | .selection id _ _ _ _ => id
  | .aggregation id _ _ _ _ => id
  | .join id _ _ _ _ => id
  | .limit id _ _ _ => id
  | .distinct id _ => id
  | .union id _ _ _ => id

/-- The identity of a relation. -/
def origin (r : Relation) : Origin :=
  ⟨r.id, r.kind⟩

/-- The relations directly below. -/
def inputs : Relation → List Relation
  | .table .. | .sqlQuery .. => []
  | .selfReference _ target => [target]
  | .selection _ input _ _ _ => [input]
  | .aggregation _ input _ _ _ => [input]
  | .join _ _ left right _ => [left, right]
  | .limit _ input _ _ => [input]
  | .distinct _ input => [input]
  | .union _ left right _ => [left, right]

/-- The number of nodes of the tree. -/
def size : Relation → Nat
  | .table .. | .sqlQuery .. => 1
  | .selfReference _ target => target.size + 1
  | .selection _ input _ _ _ => input.size + 1
  | .aggregation _ input _ _ _ => input.size + 1
  | .join _ _ left right _ => left.size + right.size + 1
  | .limit _ input _ _ => input.size + 1
  | .distinct _ input => input.size + 1
  | .union _ left right _ => left.size + right.size + 1

/-- The names of the columns that a relation produces, in order. -/
def columnNames : Relation → List String
  | .table _ _ schema => schema.names
  | .sqlQuery _ _ schema => schema.names
  | .selfReference _ target => target.columnNames
  | .selection _ input projections _ _ =>
    if projections.isEmpty then input.columnNames else projections.filterMap Expr.outputName?
  | .aggregation _ _ keys metrics _ => (keys ++ metrics).filterMap Expr.outputName?
  | .join _ _ left right _ => left.columnNames ++ right.columnNames
  | .limit _ input _ _ => input.columnNames
  | .distinct _ input => input.columnNames
  | .union _ left _ _ => left.columnNames

/-- Whether two results are combined somewhere in the tree. -/
def containsUnion : Relation → Bool
  | .union .. => true
  | .table .. | .sqlQuery .. => false
  | .selfReference _ target => target.containsUnion
  | .selection _ input _ _ _ => input.containsUnion
  | .aggregation _ input _ _ _ => input.containsUnion
  | .join _ _ left right _ => left.containsUnion || right.containsUnion
  | .limit _ input _ _ => input.containsUnion
  | .distinct _ input => input.containsUnion

/-- Whether the relation with the identity is this one or lies below it. A self-reference hides what
it points to: columns of the target never belong to the view. -/
def contains (o : Origin) : Relation → Bool
  | .table id name schema => (table id name schema).origin == o
  | .sqlQuery id query schema => (sqlQuery id query schema).origin == o
  | .selfReference id target => (selfReference id target).origin == o
  | .selection id input projections predicates sortKeys =>
    (selection id input projections predicates sortKeys).origin == o || input.contains o
  | .aggregation id input keys metrics having =>
    (aggregation id input keys metrics having).origin == o || input.contains o
  | .join id kind left right predicates =>
    (join id kind left right predicates).origin == o || left.contains o || right.contains o
  | .limit id input count offset => (limit id input count offset).origin == o || input.contains o
  | .distinct id input => (distinct id input).origin == o || input.contains o
  | .union id left right d =>
    (union id left right d).origin == o || left.contains o || right.contains o

def column (r : Relation) (name : String) : Expr :=
  .column ⟨r.origin, name⟩

def isJoin : Relation → Bool
  | .join .. => true
  | _ => false

/-- Whether the relation is named directly in a `FROM` clause: a table, or a view of one. -/
def isBaseTable : Relation → Bool
  | .table .. => true
  | .selfReference _ target => target.isBaseTable
  | _ => false

end Relation

end TableQuery
