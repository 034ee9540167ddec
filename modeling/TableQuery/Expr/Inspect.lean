import TableQuery.Expr.Basic

/-!
# Inspecting expressions

The layout of expressions for developers. A column shows the kind of its relation and its name.
-/

namespace TableQuery

open Inspect

instance : Inspect Operation := ⟨Operation.name⟩

instance : Inspect ColumnRef := ⟨fun r => r.origin.kind.name ++ "." ++ r.name⟩

/-- The layout of a bound for developers. -/
def FrameBound.inspected : FrameBound → String
  | .unboundedPreceding => "UnboundedPreceding"
  | .preceding n => tuple "Preceding" [inspect n]
  | .currentRow => "CurrentRow"
  | .following n => tuple "Following" [inspect n]
  | .unboundedFollowing => "UnboundedFollowing"

/-- The layout of a frame for developers. -/
def WindowFrame.inspected (f : WindowFrame) : String :=
  let units :=
    match f.units with
    | .rows => "Rows"
    | .range => "Range"
  record "WindowFrame" [("units", units), ("start", f.first.inspected), ("end", f.last.inspected)]

instance : Inspect WindowFrame := ⟨WindowFrame.inspected⟩

namespace Expr

mutual

/-- The layout of an expression for developers. -/
def inspected : Expr → String
  | .column ref => tuple "Column" [inspect ref]
  | .literal value => tuple "Literal" [inspect value]
  | .call op args => record "Call" [("op", op.name), ("args", list (inspectedList args))]
  | .cast arg target => record "Cast" [("arg", arg.inspected), ("to", inspect target)]
  | .alias expr name => record "Alias" [("expr", expr.inspected), ("name", inspect name)]
  | .window func partition order frame =>
    record "Window"
      [("func", func.inspected),
       ("spec", record "WindowSpec"
          [("partition_by", list (inspectedList partition)),
           ("order_by", list (inspectedKeys order)),
           ("frame", inspect frame)])]
  | .udf name args output =>
    record "Udf"
      [("name", inspect name), ("args", list (inspectedList args)), ("output", inspect output)]

/-- The layouts of expressions for developers. -/
def inspectedList : List Expr → List String
  | [] => []
  | e :: es => e.inspected :: inspectedList es

/-- The layouts of sort keys for developers. -/
def inspectedKeys : List (SortKey Expr) → List String
  | [] => []
  | ⟨e, up⟩ :: ks =>
    record "SortKey" [("expr", e.inspected), ("ascending", inspect up)] :: inspectedKeys ks

end

end Expr

instance : Inspect Expr := ⟨Expr.inspected⟩

end TableQuery
