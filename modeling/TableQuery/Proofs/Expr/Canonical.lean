import TableQuery.Proofs.Expr.Induction
import TableQuery.Spelling.Standard

/-!
# Canonical — what the text of an expression can tell

Names leave no trace in the text of an expression, and two pairs of operations are spelled alike.
The canonical form of an expression is without names and has one operation of each pair. It is all
that a text could tell, and this file says of which expressions a text can tell it: of those that
are built from columns and plain literals by operations that write their operands as they are.
-/

namespace TableQuery

theorem Operation.mem_catalog (op : Operation) : op ∈ Operation.catalog := by
  cases op <;> decide

/-- The operation writes every operand as it is, by an operator, as a function or in a choice. -/
def Operation.isTransparent (op : Operation) : Bool :=
  match Spellings.standardRule? op with
  | some ⟨_, .splice _ _⟩ =>
    [.negate, .between, .inList, .notInList, .ifElse, .searchedCase].contains op
  | some _ => true
  | none => false

/-- `NULL`, a truth value, a whole number that is not negative, or a text. -/
def Literal.IsPlain : Literal → Prop
  | .null | .boolean _ | .string _ => True
  | .int n => 0 ≤ n
  | _ => False

namespace Expr

/-! ## The canonical form -/

/-- A node without a name, and with the first of two operations that are spelled alike. -/
def canonicalNode : Expr → Expr
  | .alias expr _ => expr
  | .call .ifNull [x, y] => .call .coalesce [x, y]
  | .call .ifElse [condition, then_, else_] => .call .searchedCase [condition, then_, else_]
  | e => e

/-- The expression without names, and with the first of two operations that are spelled alike. -/
def canonical (e : Expr) : Expr :=
  e.transformUp canonicalNode

@[simp]
theorem canonical_alias (expr : Expr) (name : String) :
    (Expr.alias expr name).canonical = expr.canonical := rfl

theorem canonical_call (op : Operation) (args : List Expr) :
    (call op args).canonical = canonicalNode (.call op (args.map canonical)) := by
  unfold canonical
  rw [transformUp, transformList_eq_map]

theorem canonicalNode_of_ne {op : Operation} (hNull : op ≠ .ifNull) (hChoice : op ≠ .ifElse)
    (args : List Expr) : canonicalNode (.call op args) = .call op args := by
  unfold canonicalNode
  split <;> simp_all

/-! ## Readable expressions -/

/-- Columns of one relation, none of which brings quotes of its own, and plain literals, with names,
casts and calls of transparent operations. -/
inductive Readable (o : Origin) : Expr → Prop where
  | column {name : String} (hName : name.toList.head? ≠ some '"') : Readable o (.column ⟨o, name⟩)
  | literal {value : Literal} (hValue : value.IsPlain) : Readable o (.literal value)
  | call {op : Operation} {args : List Expr} (hOp : op.isTransparent = true)
      (hArgs : ∀ a ∈ args, Readable o a) : Readable o (.call op args)
  | cast {arg : Expr} {target : DataType} (hArg : Readable o arg) : Readable o (.cast arg target)
  | named {expr : Expr} {name : String} (hExpr : Readable o expr) : Readable o (.alias expr name)

end Expr
end TableQuery
