import TableQuery.Dialect
import TableQuery.Expr.Inspect
import TableQuery.Scope
import TableQuery.Sql.Literal

/-!
# The SQL text of expressions

An expression is rewritten first, together with everything below it, and then written out. An
operand that reads as an operator expression is put in parentheses when its parent reads as one too.
-/

namespace TableQuery

/-- The text of a bound of a window frame. -/
def FrameBound.sql : FrameBound → String
  | .unboundedPreceding => "UNBOUNDED PRECEDING"
  | .preceding n => toString n ++ " PRECEDING"
  | .currentRow => "CURRENT ROW"
  | .following n => toString n ++ " FOLLOWING"
  | .unboundedFollowing => "UNBOUNDED FOLLOWING"

/-- The text of a window frame. -/
def WindowFrame.sql (f : WindowFrame) : String :=
  let units :=
    match f.units with
    | .rows => "ROWS"
    | .range => "RANGE"
  units ++ " BETWEEN " ++ f.first.sql ++ " AND " ++ f.last.sql

/-- The text inside the parentheses of `OVER`. -/
def windowClauses (partition order : List String) (frame : Option WindowFrame) : String :=
  let clauses :=
    (if partition.isEmpty then [] else ["PARTITION BY " ++ ", ".intercalate partition])
      ++ (if order.isEmpty then [] else ["ORDER BY " ++ ", ".intercalate order])
      ++ (frame.map WindowFrame.sql).toList
  " ".intercalate clauses

/-- The text of a function over a window. Ranks that the user counts from zero are moved down by
one. -/
def windowText (op : Operation) (func : String) (partition order : List String)
    (frame : Option WindowFrame) : String :=
  let text := func ++ " OVER (" ++ windowClauses partition order frame ++ ")"
  if op.countsFromZero then "(" ++ text ++ " - 1)" else text

def sortKeyText (text : String) (ascending : Bool) : String :=
  if ascending then text else text ++ " DESC"

namespace Expr

/-- Whether the text of an expression is an operator expression. -/
def isCompound (d : Dialect) : Expr → Bool
  | .call op _ =>
    match d.spellings.rule? op with
    | some rule => rule.isOperatorLike
    | none => false
  | .alias expr _ => expr.isCompound d
  | _ => false

/-- An operand's text, in parentheses where it needs them. -/
def operandText (d : Dialect) (wrap : Bool) (e : Expr) (text : String) : String :=
  if wrap && e.isCompound d then "(" ++ text ++ ")" else text

mutual

/-- The text of an expression whose operations have been rewritten. -/
def plainSql (d : Dialect) (cx : Context) : Expr → Except SqlError String
  | .column ref => cx.columnText ref
  | .literal value => value.sql
  | .call op args =>
    if op.isAnalytic then
      .error (.unsupportedExpr
        ("analytic function " ++ op.name ++ " must be applied over a window"))
    else
      match d.ruleFor op args.length with
      | .error e => .error e
      | .ok rule => (operandsSql d cx rule.isOperatorLike args).map rule.render
  | .cast arg target =>
    match arg.plainSql d cx with
    | .error e => .error e
    | .ok text => target.sqlName.map fun name => "CAST(" ++ text ++ " AS " ++ name ++ ")"
  | .alias expr _ => expr.plainSql d cx
  | .window (.call op args) partition order frame =>
    if op.isAnalytic || op.isReduction then
      match d.ruleFor op args.length with
      | .error e => .error e
      | .ok rule =>
        match operandsSql d cx rule.isOperatorLike args with
        | .error e => .error e
        | .ok operands =>
          match listSql d cx partition with
          | .error e => .error e
          | .ok keys =>
            (keysSql d cx order).map fun sorted =>
              windowText op (rule.render operands) keys sorted frame
    else
      .error (.unsupportedExpr
        ("window over non-analytic expression " ++ inspect (Expr.call op args)))
  | .window func _ _ _ =>
    .error (.unsupportedExpr ("window over non-analytic expression " ++ inspect func))
  | .udf name args _ =>
    match listSql d cx args with
    | .error e => .error e
    | .ok texts =>
      (Identifier.safe name).map fun safe => safe ++ "(" ++ ", ".intercalate texts ++ ")"

/-- The texts of the operands of a call. -/
def operandsSql (d : Dialect) (cx : Context) (wrap : Bool) :
    List Expr → Except SqlError (List String)
  | [] => .ok []
  | e :: es =>
    match e.plainSql d cx with
    | .error err => .error err
    | .ok text => (operandsSql d cx wrap es).map (e.operandText d wrap text :: ·)

/-- The texts of expressions in a row. -/
def listSql (d : Dialect) (cx : Context) : List Expr → Except SqlError (List String)
  | [] => .ok []
  | e :: es =>
    match e.plainSql d cx with
    | .error err => .error err
    | .ok text => (listSql d cx es).map (text :: ·)

/-- The texts of the sort keys of a window. -/
def keysSql (d : Dialect) (cx : Context) : List (SortKey Expr) → Except SqlError (List String)
  | [] => .ok []
  | ⟨e, up⟩ :: ks =>
    match e.plainSql d cx with
    | .error err => .error err
    | .ok text => (keysSql d cx ks).map (sortKeyText text up :: ·)

end

/-- The text of an expression. -/
def sql (d : Dialect) (cx : Context) (e : Expr) : Except SqlError String :=
  (d.rewrites.apply e).plainSql d cx

/-- Whether the expression is a column under its own name. -/
def isBareColumn : Expr → Bool
  | .column _ => true
  | .alias (.column ref) name => ref.name == name
  | _ => false

/-- The text of an item of the select list, with its name where it is not a bare column. -/
def namedSql (d : Dialect) (cx : Context) (e : Expr) : Except SqlError String :=
  match e.sql d cx with
  | .error err => .error err
  | .ok text =>
    match e.outputName? with
    | none => .ok text
    | some name =>
      if e.isBareColumn && !cx.alwaysAlias then .ok text
      else (Identifier.safe name).map fun safe => text ++ " AS " ++ safe

end Expr

/-- The text of a sort key of a statement. -/
def SortKey.sql (d : Dialect) (cx : Context) (k : SortKey Expr) : Except SqlError String :=
  (k.key.sql d cx).map fun text => sortKeyText text k.ascending

end TableQuery
