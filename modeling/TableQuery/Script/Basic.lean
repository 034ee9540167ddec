import TableQuery.DataType.Json
import TableQuery.Expr.Build
import TableQuery.Literal.Json
import TableQuery.Relation

/-!
# Scripts

Relations and expressions can be written down in JSON as a script: a list of steps, each of which
gives a name to a relation or to an expression. A later step refers to earlier ones by their names,
and may take a name that an earlier one has had. Every step makes a new relation, so that two steps
with the same content are still different relations.
-/

namespace TableQuery.Script

/-- What a step defines. -/
inductive Definition where
  | relation (r : Relation)
  | expr (e : Expr)

/-- The steps so far, the latest first. -/
structure Definitions where
  entries : List (String × Definition) := []

namespace Definitions

/-- The number of the next relation. -/
def next (ds : Definitions) : Nat :=
  ds.entries.length

/-- Adds a step. -/
def add (ds : Definitions) (name : String) (d : Definition) : Definitions :=
  ⟨(name, d) :: ds.entries⟩

/-- The latest relation of a name. -/
def relation? (ds : Definitions) (name : String) : Option Relation :=
  ds.entries.findSome? fun
    | (n, .relation r) => if n == name then some r else none
    | _ => none

/-- The latest expression of a name. -/
def expr? (ds : Definitions) (name : String) : Option Expr :=
  ds.entries.findSome? fun
    | (n, .expr e) => if n == name then some e else none
    | _ => none

/-- The relation whose name a value is. -/
def relationOf? (ds : Definitions) (j : Json) : Option Relation :=
  j.asString?.bind ds.relation?

/-- All relations with their names, in order. -/
def relations (ds : Definitions) : List (String × Relation) :=
  ds.entries.reverse.filterMap fun
    | (n, .relation r) => some (n, r)
    | _ => none

/-- All expressions with their names, in order. -/
def exprs (ds : Definitions) : List (String × Expr) :=
  ds.entries.reverse.filterMap fun
    | (n, .expr e) => some (n, e)
    | _ => none

/-- The first name of a relation. -/
def nameOf? (ds : Definitions) (o : Origin) : Option String :=
  (ds.relations.find? fun (_, r) => r.origin == o).map (·.1)

end Definitions

/-- A member that is there and not `null`. -/
def member? (j : Json) (name : String) : Option Json :=
  match j with
  | .object members =>
    match Json.member? members name with
    | some .null => none
    | found => found
  | _ => none

/-- A member, or what counts when there is none. -/
def memberOr? {α : Type} (j : Json) (name : String) (default : α) (read : Json → Option α) :
    Option α :=
  match member? j name with
  | some v => read v
  | none => some default

/-- The items of an array, read one by one. -/
def list? {α : Type} (read : Json → Option α) (j : Json) : Option (List α) :=
  j.asArray?.bind fun items => items.mapM read

/-- A signed word of 64 bits. -/
def int? (j : Json) : Option Int :=
  Json.asInt? Text.int64Min Text.int64Max j

/-- A word of 64 bits. -/
def nat? (j : Json) : Option Nat :=
  Json.asWord? 64 j

/-- A column with its name, its type, and whether it may be empty, which it may by default. -/
def column? : Json → Option Field
  | .array (.string name :: type :: rest) => do
    let type ← DataType.ofJson? type
    match rest with
    | [] | [.null] => return ⟨name, type, true⟩
    | [.bool nullable] => return ⟨name, type, nullable⟩
    | _ => none
  | _ => none

/-- The columns of a schema. -/
def schema? (j : Json) : Option Schema :=
  (list? column? j).map Schema.mk

/-- A unit of time, by its keyword. -/
def unit? (j : Json) : Option TemporalUnit :=
  j.asString?.bind TemporalUnit.ofKeyword?

/-- An operation, by its name. -/
def operation? (j : Json) : Option Operation :=
  j.asString?.bind Operation.ofName?

/-- The bound of a window frame. -/
def bound? : Json → Option FrameBound
  | .string "unbounded_preceding" => some .unboundedPreceding
  | .string "unbounded_following" => some .unboundedFollowing
  | .string "current_row" => some .currentRow
  | .array [.string "preceding", n] => (nat? n).map .preceding
  | .array [.string "following", n] => (nat? n).map .following
  | _ => none

def frame? : Json → Option WindowFrame
  | .array [.string "rows", a, b] => do return ⟨.rows, ← bound? a, ← bound? b⟩
  | .array [.string "range", a, b] => do return ⟨.range, ← bound? a, ← bound? b⟩
  | _ => none

end TableQuery.Script
