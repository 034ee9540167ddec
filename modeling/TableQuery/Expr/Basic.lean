import TableQuery.DataType
import TableQuery.Literal

/-!
# Expressions

Trees of columns, literals, calls, casts, names, windows and user functions. A column remembers the
very relation that it was taken from: two tables with the same name and columns are two relations.
-/

namespace TableQuery

/-- The kinds of relations. -/
inductive RelationKind where
  | table | selfReference | sqlQuery | selection | aggregation | join | limit | distinct | union
  deriving DecidableEq, Repr

/-- The name under which a kind of relation is shown. -/
def RelationKind.name : RelationKind → String
  | .table => "Table"
  | .selfReference => "SelfReference"
  | .sqlQuery => "SqlQuery"
  | .selection => "Selection"
  | .aggregation => "Aggregation"
  | .join => "Join"
  | .limit => "Limit"
  | .distinct => "Distinct"
  | .union => "Union"

/-- The identity of a relation: a number that no other relation has, with the relation's kind. -/
structure Origin where
  id : Nat
  kind : RelationKind
  deriving DecidableEq, Repr

/-- A named column of one relation. -/
structure ColumnRef where
  origin : Origin
  name : String
  deriving DecidableEq, Repr

/-- A sort key: what to sort by, and whether upwards. -/
structure SortKey (α : Type) where
  key : α
  ascending : Bool
  deriving DecidableEq, Repr

namespace SortKey

/-- The key with something done to what is sorted by. -/
def map {α β : Type} (f : α → β) (k : SortKey α) : SortKey β :=
  ⟨f k.key, k.ascending⟩

end SortKey

/-- How the bounds of a window frame count. -/
inductive FrameUnits where
  | rows | range
  deriving DecidableEq, Repr

/-- A bound of a window frame. -/
inductive FrameBound where
  | unboundedPreceding
  | preceding (n : Nat)
  | currentRow
  | following (n : Nat)
  | unboundedFollowing
  deriving DecidableEq, Repr

/-- The rows of a window that a function sees. -/
structure WindowFrame where
  units : FrameUnits
  first : FrameBound
  last : FrameBound
  deriving DecidableEq, Repr

/-- An expression. -/
inductive Expr where
  | column (ref : ColumnRef)
  | literal (value : Literal)
  | call (op : Operation) (args : List Expr)
  | cast (arg : Expr) (target : DataType)
  | alias (expr : Expr) (name : String)
  | window (func : Expr) (partition : List Expr) (order : List (SortKey Expr))
      (frame : Option WindowFrame)
  | udf (name : String) (args : List Expr) (output : DataType)

namespace Expr

/-- The name under which an expression appears among the columns of a result, if it has one. -/
def outputName? : Expr → Option String
  | .column ref => some ref.name
  | .literal _ => none
  | .call op args =>
    match op.defaultName?, args with
    | some name, _ => some name
    | none, arg :: _ => arg.outputName?
    | none, [] => none
  | .cast arg _ => arg.outputName?
  | .alias _ name => some name
  | .window func _ _ _ => func.outputName?
  | .udf name _ _ => some name

/-- The expressions directly below, in order, with the keys of windows. -/
def children : Expr → List Expr
  | .column _ | .literal _ => []
  | .call _ args | .udf _ args _ => args
  | .cast arg _ => [arg]
  | .alias expr _ => [expr]
  | .window func partition order _ => func :: (partition ++ order.map (·.key))

mutual

/-- Whether some node of the tree has a property. -/
def anyNode (p : Expr → Bool) : Expr → Bool
  | .column ref => p (.column ref)
  | .literal value => p (.literal value)
  | .call op args => p (.call op args) || anyNodeList p args
  | .cast arg target => p (.cast arg target) || arg.anyNode p
  | .alias expr name => p (.alias expr name) || expr.anyNode p
  | .window func partition order frame =>
    p (.window func partition order frame) || func.anyNode p || anyNodeList p partition
      || anyNodeKeys p order
  | .udf name args output => p (.udf name args output) || anyNodeList p args

/-- Whether some node of one of the trees has a property. -/
def anyNodeList (p : Expr → Bool) : List Expr → Bool
  | [] => false
  | e :: es => e.anyNode p || anyNodeList p es

/-- Whether some node of one of the sort keys has a property. -/
def anyNodeKeys (p : Expr → Bool) : List (SortKey Expr) → Bool
  | [] => false
  | ⟨e, _⟩ :: ks => e.anyNode p || anyNodeKeys p ks

end

mutual

/-- Rebuilds the tree from the leaves up, replacing every node after its children. -/
def transformUp (f : Expr → Expr) : Expr → Expr
  | .column ref => f (.column ref)
  | .literal value => f (.literal value)
  | .call op args => f (.call op (transformList f args))
  | .cast arg target => f (.cast (arg.transformUp f) target)
  | .alias expr name => f (.alias (expr.transformUp f) name)
  | .window func partition order frame =>
    f (.window (func.transformUp f) (transformList f partition) (transformKeys f order) frame)
  | .udf name args output => f (.udf name (transformList f args) output)

/-- Rebuilds each of the trees. -/
def transformList (f : Expr → Expr) : List Expr → List Expr
  | [] => []
  | e :: es => e.transformUp f :: transformList f es

/-- Rebuilds the expression of each sort key. -/
def transformKeys (f : Expr → Expr) : List (SortKey Expr) → List (SortKey Expr)
  | [] => []
  | ⟨e, up⟩ :: ks => ⟨e.transformUp f, up⟩ :: transformKeys f ks

end

mutual

/-- Equality of expressions, where literals are compared as values. -/
def same : Expr → Expr → Bool
  | .column r, .column r' => r == r'
  | .literal v, .literal v' => v.same v'
  | .call op args, .call op' args' => op == op' && sameList args args'
  | .cast arg target, .cast arg' target' => arg.same arg' && target == target'
  | .alias expr name, .alias expr' name' => expr.same expr' && name == name'
  | .window func partition order frame, .window func' partition' order' frame' =>
    func.same func' && sameList partition partition' && sameKeys order order' && frame == frame'
  | .udf name args output, .udf name' args' output' =>
    name == name' && sameList args args' && output == output'
  | _, _ => false

/-- Equality of lists of expressions. -/
def sameList : List Expr → List Expr → Bool
  | [], [] => true
  | e :: es, e' :: es' => e.same e' && sameList es es'
  | _, _ => false

/-- Equality of lists of sort keys. -/
def sameKeys : List (SortKey Expr) → List (SortKey Expr) → Bool
  | [], [] => true
  | ⟨e, up⟩ :: ks, ⟨e', up'⟩ :: ks' => e.same e' && up == up' && sameKeys ks ks'
  | _, _ => false

end

/-- Whether the node is a call of the operation. -/
def isCallOf (op : Operation) : Expr → Bool
  | .call op' _ => op' == op
  | _ => false

/-- Whether some node of the tree is a call that folds many rows into one value. -/
def hasReduction (e : Expr) : Bool :=
  e.anyNode fun
    | .call op _ => op.isReduction
    | _ => false

end Expr

end TableQuery
