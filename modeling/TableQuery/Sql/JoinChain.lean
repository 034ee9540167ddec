import TableQuery.Dialect
import TableQuery.Expr.Inspect

/-!
# Chains of joins

A `FROM` clause can only be a chain that grows to the right: a first table, and then one table after
another with the kind and the conditions of its join. A join tree has such a form when no join
stands on the right of another.
-/

namespace TableQuery

/-- One more table in a chain, with how it is joined. -/
structure JoinStep where
  id : Nat
  kind : JoinKind
  table : Relation
  predicates : List Expr

/-- A first table and those joined to it. -/
structure JoinChain where
  first : Relation
  steps : List JoinStep

namespace JoinChain

/-- The tables of a chain, from left to right. -/
def tables (c : JoinChain) : List Relation :=
  c.first :: c.steps.map (·.table)

/-- The join tree that a chain stands for. -/
def toRelation (c : JoinChain) : Relation :=
  c.steps.foldl (fun left s => .join s.id s.kind left s.table s.predicates) c.first

/-- The chain with one more table. -/
def append (c : JoinChain) (s : JoinStep) : JoinChain :=
  { c with steps := c.steps ++ [s] }

end JoinChain

/-- The expression under a name, if it has one. -/
def Expr.unnamed : Expr → Expr
  | .alias inner _ => inner
  | other => other

/-- What a join condition is, in words: the operation, or the whole expression. -/
def Expr.described : Expr → String
  | .call op _ => op.name
  | other => inspect other

/-- Checks that the conditions of a join are equalities, where the dialect has no others. -/
def Dialect.checkJoinPredicates (d : Dialect) (predicates : List Expr) : Except SqlError Unit :=
  if d.nonEquiJoins then .ok ()
  else
    match predicates.find? (fun p => !p.unnamed.isCallOf .equals) with
    | some p => .error (.nonEquiJoin p.unnamed.described)
    | none => .ok ()

/-- The keyword of a join, or the error that the dialect has no such join. -/
def Dialect.joinLabel (d : Dialect) (kind : JoinKind) : Except SqlError String :=
  match d.joinLabel? kind with
  | some label => .ok label
  | none => .error (.unsupportedOperator (kind.word ++ " join") d.displayName)

namespace JoinChain

/-- Reads a join tree as a chain. Any other relation is a chain by itself. -/
def ofRelation (d : Dialect) : Relation → Except SqlError JoinChain
  | .join id kind left right predicates =>
    if right.isJoin then
      .error (.unsupportedExpr "joins on the right side of a join are not supported")
    else
      match d.checkJoinPredicates predicates with
      | .error e => .error e
      | .ok () =>
        match d.joinLabel kind with
        | .error e => .error e
        | .ok _ =>
          (ofRelation d left).map (·.append ⟨id, kind, right, predicates⟩)
  | r => .ok ⟨r, []⟩

end JoinChain

end TableQuery
