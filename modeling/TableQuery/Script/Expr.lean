import TableQuery.Script.Basic

/-!
# Expressions of a script

An expression is an object with one member that is named for its kind: a column, a literal, a call,
a cast, a name, a window, a reference to an earlier step, or a method or function by its word.
-/

namespace TableQuery.Script

/-- An argument of a method: what was written, and what it is as an expression and as a list of
expressions, if it is any. -/
structure Argument where
  written : Json
  expr : Option Expr
  exprs : Option (List Expr)

namespace Argument

/-- An optional argument, which is missing or `null` if there is none. -/
def optional? {α : Type} (read : Argument → Option α) : List Argument → Option (Option α)
  | [] => some none
  | a :: _ =>
    match a.written with
    | .null => some none
    | _ => (read a).map some

/-- The argument as a whole number. -/
def int? (a : Argument) : Option Int :=
  Script.int? a.written

/-- The argument as a unit of time. -/
def unit? (a : Argument) : Option TemporalUnit :=
  Script.unit? a.written

end Argument

/-- The call of a method. Methods without parameters of their own go by the words of operations. -/
def method? (word : String) (e : Expr) (args : List Argument) : Option Expr :=
  match word, args with
  | "cast", [t] => (DataType.ofJson? t.written).map (.cast e)
  | "name", [n] => n.written.asString?.map e.named
  | "between", [a, b] => do return e.between (← a.expr) (← b.expr)
  | "st_dwithin", [a, b] => do return e.withinDistance (← a.expr) (← b.expr)
  | "if_else", [a, b] => do return e.ifElse (← a.expr) (← b.expr)
  | "isin", [xs] => xs.exprs.map e.isIn
  | "notin", [xs] => xs.exprs.map e.notIn
  | "log", xs => (Argument.optional? (·.expr) xs).map e.log
  | "round", xs => (Argument.optional? (·.int?) xs).map e.round
  | "lag", xs => (Argument.optional? (·.int?) xs).map e.lag
  | "lead", xs => (Argument.optional? (·.int?) xs).map e.lead
  | "truncate", [n] => n.int?.map e.truncate
  | "substr", start :: rest => do
    return e.substring (← start.expr) (← Argument.optional? (·.expr) rest)
  | "date_truncate", [u] => u.unit?.map e.dateTruncate
  | "delta", [start, u] => do return e.delta (← start.expr) (← u.unit?)
  | "date_add", [n, u] => do return e.dateAdd (← n.expr) (← u.unit?)
  | word, [] => (Operation.ofUnaryWord? word).map fun op => .call op [e]
  | word, [x] => do return .call (← Operation.ofBinaryWord? word) [e, ← x.expr]
  | _, _ => none

/-- The call of a function. -/
def function? (word : String) (args : List Argument) : Option Expr :=
  match word, args with
  | "null", _ => some Expr.null
  | "ntile", [n] => n.int?.map Expr.nTile
  | "coalesce", [xs] => xs.exprs.map (.call .coalesce)
  | "greatest", [xs] => xs.exprs.map (.call .greatest)
  | "least", [xs] => xs.exprs.map (.call .least)
  | "st_point", [x, y] => do return .call .geoPoint [← x.expr, ← y.expr]
  | word, _ => (Operation.ofNullaryWord? word).map fun op => .call op []

/-- The parts of a window. -/
structure Window where
  partition : List Expr := []
  order : List (SortKey Expr) := []
  frame : Option WindowFrame := none

mutual

def exprOf? (ds : Definitions) : Json → Option Expr
  | .object [(kind, content)] =>
    match kind, content with
    | "col", .array [r, .string n] => (ds.relationOf? r).map (·.column n)
    | "lit", v => (Literal.ofJson? v).map .literal
    | "call", .array [op, .array args] => do return .call (← operation? op) (← exprsOf? ds args)
    | "cast", .array [e, t] => do return .cast (← exprOf? ds e) (← DataType.ofJson? t)
    | "name", .array [e, .string n] => (exprOf? ds e).map (·.named n)
    | "alias", .array [e, .string n] => (exprOf? ds e).map (.alias · n)
    | "over", .array [e, .object parts] => do
      let w ← windowOf? ds {} parts
      return (← exprOf? ds e).windowed w.partition w.order w.frame
    | "udf", .array [.string n, .array args, t] => do
      return .udf n (← exprsOf? ds args) (← DataType.ofJson? t)
    | "ref", .string n => ds.expr? n
    | "m", .array (.string word :: receiver :: args) => do
      method? word (← exprOf? ds receiver) (argumentsOf ds args)
    | "fn", .array (.string "case" :: .array branches :: rest) => do
      let branches ← branchesOf? ds branches
      return Expr.searchedCase branches (← Argument.optional? (·.expr) (argumentsOf ds rest))
    | "fn", .array (.string word :: args) => function? word (argumentsOf ds args)
    | _, _ => none
  | _ => none

def exprsOf? (ds : Definitions) : List Json → Option (List Expr)
  | [] => some []
  | j :: js => do return (← exprOf? ds j) :: (← exprsOf? ds js)

/-- The arguments of a method. -/
def argumentsOf (ds : Definitions) : List Json → List Argument
  | [] => []
  | j :: js =>
    let exprs :=
      match j with
      | .array items => exprsOf? ds items
      | _ => none
    ⟨j, exprOf? ds j, exprs⟩ :: argumentsOf ds js

/-- The branches of a case expression. -/
def branchesOf? (ds : Definitions) : List Json → Option (List (Expr × Expr))
  | [] => some []
  | .array [condition, value] :: js => do
    return (← exprOf? ds condition, ← exprOf? ds value) :: (← branchesOf? ds js)
  | _ => none

/-- A sort key; it is ascending unless it says otherwise. -/
def keyOf? (ds : Definitions) : Json → Option (SortKey Expr)
  | .object [("asc", e)] => (exprOf? ds e).map (·.asc)
  | .object [("desc", e)] => (exprOf? ds e).map (·.desc)
  | e => (exprOf? ds e).map (·.asc)

def keysOf? (ds : Definitions) : List Json → Option (List (SortKey Expr))
  | [] => some []
  | j :: js => do return (← keyOf? ds j) :: (← keysOf? ds js)

/-- The parts of a window, on top of those that have been read. -/
def windowOf? (ds : Definitions) (w : Window) : List (String × Json) → Option Window
  | [] => some w
  | ("partition", .array items) :: rest => do
    windowOf? ds { w with partition := ← exprsOf? ds items } rest
  | ("order", .array items) :: rest => do
    windowOf? ds { w with order := ← keysOf? ds items } rest
  | ("frame", .array items) :: rest => do
    windowOf? ds { w with frame := some (← frame? (.array items)) } rest
  | _ :: rest => windowOf? ds w rest

end

end TableQuery.Script
