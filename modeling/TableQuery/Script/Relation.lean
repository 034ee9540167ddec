import TableQuery.Rewrite.Basic
import TableQuery.Script.Expr

/-!
# Relations of a script

A step that defines a relation names its kind, the relations that it is made from, and whatever else
the kind needs. Rewrite rules can be written down too, with a template for the result.
-/

namespace TableQuery.Script

/-- The expressions in a member; none if it is missing. -/
def exprsIn? (ds : Definitions) (j : Json) (name : String) : Option (List Expr) :=
  memberOr? j name [] fun v => v.asArray?.bind (exprsOf? ds)

/-- The sort keys in a member; none if it is missing. -/
def keysIn? (ds : Definitions) (j : Json) (name : String) : Option (List (SortKey Expr)) :=
  memberOr? j name [] fun v => v.asArray?.bind (keysOf? ds)

/-- The relation that a member names. -/
def relationIn? (ds : Definitions) (j : Json) (name : String) : Option Relation :=
  (member? j name).bind ds.relationOf?

/-- The text in a member. -/
def textIn? (j : Json) (name : String) : Option String :=
  (member? j name).bind Json.asString?

/-- The schema in a member. -/
def schemaIn? (j : Json) (name : String) : Option Schema :=
  (member? j name).bind schema?

/-- A relation that is made from another one, by its kind. -/
def unary? (ds : Definitions) (j : Json) (kind : String) (r : Relation) : Option Relation :=
  let id := ds.next
  match kind with
  | "view" => some (.selfReference id r)
  | "filter" => do return .selection id r [] (← exprsIn? ds j "preds") []
  | "select" => do return .selection id r (← exprsIn? ds j "exprs") [] []
  | "order_by" => do return .selection id r [] [] (← keysIn? ds j "keys")
  | "selection" => do
    return .selection id r (← exprsIn? ds j "exprs") (← exprsIn? ds j "preds")
      (← keysIn? ds j "keys")
  | "aggregate" => do
    return .aggregation id r (← exprsIn? ds j "by") (← exprsIn? ds j "metrics")
      (← exprsIn? ds j "having")
  | "count" => some (.aggregation id r [] [Expr.countStar] [])
  | "limit" => do return .limit id r (← (member? j "n").bind nat?) (← memberOr? j "offset" 0 nat?)
  | "distinct" => some (.distinct id r)
  | _ => none

/-- A relation that is made from two others, by its kind. -/
def binary? (ds : Definitions) (j : Json) (kind : String) (left right : Relation) :
    Option Relation :=
  match kind with
  | "join" => do
    let kind ← (textIn? j "how").bind JoinKind.ofWord?
    return .join ds.next kind left right (← exprsIn? ds j "on")
  | "union" => do return .union ds.next left right (← memberOr? j "distinct" false Json.asBool?)
  | _ => none

/-- The relation that a step defines. -/
def relation? (ds : Definitions) (j : Json) : Option Relation := do
  match ← textIn? j "k" with
  | "table" => return .table ds.next (← textIn? j "name") (← schemaIn? j "fields")
  | "sql" => return .sqlQuery ds.next (← textIn? j "query") (← schemaIn? j "fields")
  | kind =>
    match relationIn? ds j "in" with
    | some r => unary? ds j kind r
    | none => binary? ds j kind (← relationIn? ds j "left") (← relationIn? ds j "right")

/-- Adds the step that a value describes. -/
def step? (ds : Definitions) (j : Json) : Option Definitions := do
  let name ← textIn? j "id"
  match member? j "expr" with
  | some e => return ds.add name (.expr (← exprOf? ds e))
  | none => return ds.add name (.relation (← relation? ds j))

/-- Adds the steps that a value describes. -/
def steps? (ds : Definitions) (j : Json) : Option Definitions :=
  j.asArray?.bind fun steps => steps.foldlM step? ds

/-- The numbers of arguments that a value describes. -/
def arity? : Json → Option Arity
  | .array [.string "exact", k] => (nat? k).map .exactly
  | .array [.string "range", lo, hi] => do return .range (← nat? lo) (← nat? hi)
  | .array [.string "at_least", k] => (nat? k).map .atLeast
  | _ => none

/-- The rewrite rule that a value describes. -/
def rule? (ds : Definitions) (j : Json) : Option RewriteRule := do
  return ⟨← textIn? j "name", ← (member? j "target").bind operation?,
    ← (member? j "arity").bind arity?,
    Template.ofExpr (← (member? j "to").bind (exprOf? ds))⟩

end TableQuery.Script
