import TableQuery.Expr.Basic
import TableQuery.Text.Numeral

/-!
# Templates

Expressions with places for the arguments of a call. Filling a template puts the arguments into
these places; it changes nothing else. A template can be written as an expression in which the user
function `$i` stands for argument `i`, and `$*` in the arguments of a call for all of them.
-/

namespace TableQuery

/-- An expression with places for arguments. -/
inductive Template where
  /-- The argument with a number, counted from zero. -/
  | argument (i : Nat)
  /-- All arguments in a row, inside a list of expressions or of sort keys. -/
  | allArguments
  | column (ref : ColumnRef)
  | literal (value : Literal)
  | call (op : Operation) (args : List Template)
  | cast (arg : Template) (target : DataType)
  | alias (template : Template) (name : String)
  | window (func : Template) (partition : List Template) (order : List (SortKey Template))
      (frame : Option WindowFrame)
  | udf (name : String) (args : List Template) (output : DataType)

namespace Template

mutual

/-- The template with the arguments in their places. A place without an argument gets `NULL`. -/
def fill (args : List Expr) : Template → Expr
  | .argument i => args.getD i (.literal .null)
  | .allArguments => .literal .null
  | .column ref => .column ref
  | .literal value => .literal value
  | .call op parts => .call op (fillList args parts)
  | .cast part target => .cast (part.fill args) target
  | .alias part name => .alias (part.fill args) name
  | .window func partition order frame =>
    .window (func.fill args) (fillList args partition) (fillKeys args order) frame
  | .udf name parts output => .udf name (fillList args parts) output

/-- Templates in a row: a place for all arguments takes them all. -/
def fillList (args : List Expr) : List Template → List Expr
  | [] => []
  | .allArguments :: rest => args ++ fillList args rest
  | part :: rest => part.fill args :: fillList args rest

/-- The templates of sort keys: a place for all arguments sorts by each of them. -/
def fillKeys (args : List Expr) : List (SortKey Template) → List (SortKey Expr)
  | [] => []
  | ⟨.allArguments, up⟩ :: rest => args.map (⟨·, up⟩) ++ fillKeys args rest
  | ⟨part, up⟩ :: rest => ⟨part.fill args, up⟩ :: fillKeys args rest

end

/-- The place that the name of a user function stands for. -/
def place? (name : String) : Option Nat :=
  match name.toList with
  | '$' :: digits => Text.digitsValue? digits
  | _ => none

mutual

/-- Reads an expression as a template. -/
def ofExpr : Expr → Template
  | .column ref => .column ref
  | .literal value => .literal value
  | .call op args => .call op (ofArguments args)
  | .cast arg target => .cast (ofExpr arg) target
  | .alias expr name => .alias (ofExpr expr) name
  | .window func partition order frame =>
    .window (ofExpr func) (ofList partition) (ofKeys order) frame
  | .udf name args output =>
    match place? name with
    | some i => .argument i
    | none => .udf name (ofList args) output

/-- Reads the arguments of a call. -/
def ofArguments : List Expr → List Template
  | [] => []
  | e :: es =>
    let part :=
      match e with
      | .udf name _ _ => if name == "$*" then .allArguments else ofExpr e
      | _ => ofExpr e
    part :: ofArguments es

/-- Reads each of the expressions. -/
def ofList : List Expr → List Template
  | [] => []
  | e :: es => ofExpr e :: ofList es

/-- Reads the expression of each sort key. -/
def ofKeys : List (SortKey Expr) → List (SortKey Template)
  | [] => []
  | ⟨e, up⟩ :: ks => ⟨ofExpr e, up⟩ :: ofKeys ks

end

end Template

end TableQuery
