import TableQuery.Sql.Clause
import TableQuery.Text.Blank

/-!
# Statements

The text of a whole relation. A derived table is a statement inside another. A generator counts the
statements that it is inside of, refuses to go deeper than its dialect allows, and hands its context
from one statement to the next, so that aliases are never drawn twice.
-/

namespace TableQuery

/-- A state of compiling with a context in it. Writing changes the context and hands on the rest. -/
class HasContext (σ : Type) where
  context : σ → Context
  updateContext : (Context → Context) → σ → σ

open HasContext (context updateContext)

instance : HasContext Context where
  context cx := cx
  updateContext f cx := f cx

@[simp] theorem HasContext.context_self (cx : Context) : context cx = cx := rfl

@[simp] theorem HasContext.updateContext_self (f : Context → Context) (cx : Context) :
    updateContext f cx = f cx := rfl

/-- What becomes of a relation in a state: its text or an error, and the state after it. -/
abbrev Rendered (σ α : Type) : Type := Except SqlError α × σ

/-- How a derived table is written. -/
abbrev RendererOf (σ : Type) : Type := σ → Relation → Rendered σ String

/-- How a derived table is written where nothing but the context is needed. -/
abbrev Renderer : Type := RendererOf Context

/-- A text in parentheses of its own lines, moved to the right. -/
def parenthesised (d : Dialect) (text : String) : String :=
  "(\n" ++ Text.indent d.indent text ++ "\n)"

section Items

variable {σ : Type} (d : Dialect) (nested : RendererOf σ)

/-- The text of a derived table. -/
def derivedText (s : σ) (r : Relation) : Rendered σ String :=
  let (result, s) := nested s r
  (result.map (parenthesised d), s)

/-- The text of a `FROM` item without its alias: a name, raw SQL or a derived table. A view is
written as what it points to. -/
def itemBody (s : σ) : Relation → Rendered σ String
  | .table _ name _ => (Identifier.safe name, s)
  | .selfReference _ (.table _ name _) => (Identifier.safe name, s)
  | .selfReference _ target => derivedText d nested s target
  | .sqlQuery _ query _ => (.ok (parenthesised d (Text.trim query)), s)
  | r => derivedText d nested s r

/-- The text of a `FROM` item with its alias. -/
def itemText (body : String) (alias? : Option String) : String :=
  match alias? with
  | some a => body ++ " " ++ a
  | none => body

def Context.drawAliasIf (cx : Context) (needed : Bool) : Option String × Context :=
  if needed then
    let (a, cx) := cx.drawAlias
    (some a, cx)
  else (none, cx)

variable [HasContext σ]

/-- The items of a `FROM` clause from left to right, each with its text. An item gets an alias where
columns are qualified, and wherever it is no base table. -/
def fromItems (qualify : Bool) : σ → List Relation → Rendered σ (List (ScopeEntry × String))
  | s, [] => (.ok [], s)
  | s, leaf :: rest =>
    let (alias?, cx) := (context s).drawAliasIf (qualify || !leaf.isBaseTable)
    match itemBody d nested (updateContext (fun _ => cx) s) leaf with
    | (.error e, s) => (.error e, s)
    | (.ok body, s) =>
      let item := (⟨leaf, alias?, leaf.columnNames⟩, itemText body alias?)
      let (items, s) := fromItems qualify s rest
      (items.map (item :: ·), s)

end Items

/-- The joined tables of a chain: a line with the keyword and the table, and one with the
condition. -/
def joinLines (d : Dialect) (cx : Context) : List JoinStep → List String → Except SqlError String
  | step :: steps, table :: tables =>
    match d.joinLabel step.kind with
    | .error e => .error e
    | .ok label =>
      match step.predicates.mapM (Expr.sql d cx) with
      | .error e => .error e
      | .ok ps =>
        (joinLines d cx steps tables).map fun rest =>
          "\n" ++ Text.indent d.indent (label ++ " " ++ table)
            ++ "\n" ++ Text.indent (2 * d.indent) (onText ps) ++ rest
  | _, _ => .ok ""

namespace SelectPlan

/-- What the `FROM` clause of a plan makes visible. -/
def scope (p : SelectPlan) (entries : List ScopeEntry) (qualify : Bool) : Scope where
  entries := entries
  qualify := qualify
  passThrough := p.folded.map (·.origin) ++ [p.source.origin]
  outputs := p.output.map fun r => (r.origin, r.columnNames)

variable {σ : Type} [HasContext σ] (d : Dialect) (nested : RendererOf σ)

/-- The `FROM` clause. Afterwards its scope is open. -/
def fromClause (s : σ) (p : SelectPlan) : Rendered σ String :=
  match JoinChain.ofRelation d p.source with
  | .error e => (.error e, s)
  | .ok chain =>
    let qualify := p.source.isJoin || (context s).alwaysAlias
    match fromItems d nested qualify s chain.tables with
    | (.error e, s) => (.error e, s)
    | (.ok items, s) =>
      let s := updateContext (·.push (p.scope (items.map (·.1)) qualify)) s
      match items.map (·.2) with
      | [] => (.error (.unsupportedExpr "empty table set"), s)
      | first :: tables =>
        ((joinLines d (context s) chain.steps tables).map fun joins => "FROM " ++ first ++ joins, s)

/-- The statement of a plan. Whatever scopes it has opened are closed afterwards. -/
def render (s : σ) (p : SelectPlan) : Rendered σ String :=
  let depth := (context s).depth
  match p.fromClause d nested s with
  | (.error e, s) => (.error e, updateContext (·.rollback depth) s)
  | (.ok text, s) => (p.clauses d (context s) text, updateContext (·.rollback depth) s)

end SelectPlan

/-- A dialect with a context that is handed from one statement to the next, so that all statements
together draw every alias once. -/
structure Generator where
  dialect : Dialect
  context : Context
  /-- The number of statements that are being written, each inside the one before. -/
  level : Nat

namespace Generator

instance : HasContext Generator where
  context g := g.context
  updateContext f g := { g with context := f g.context }

/-- A generator that has drawn no alias. -/
def new (d : Dialect) : Generator :=
  ⟨d, Context.new d.alwaysAlias, 0⟩

/-- One more statement is being written. -/
def enter (g : Generator) : Generator :=
  { g with level := g.level + 1 }

/-- The innermost statement is no longer being written. -/
def leave (g : Generator) : Generator :=
  { g with level := g.level - 1 }

/-- Writes one statement, which counts from before its bound is checked until it has a text or an
error. -/
def counted (write : Generator → Rendered Generator String) (g : Generator) :
    Rendered Generator String :=
  let entered := g.enter
  if g.dialect.maxDepth < g.level then
    (.error (.maxRecursion g.dialect.maxDepth), entered.leave)
  else
    let (result, g) := write entered
    (result, g.leave)

/-- The statement of a relation whose derived tables are written by `nested`. -/
def statementOver (nested : RendererOf Generator) (g : Generator) (r : Relation) :
    Rendered Generator String :=
  g.counted fun g =>
    match SelectPlan.ofRelation r with
    | .error e => (.error e, g)
    | .ok plan => plan.render g.dialect nested g

/-- The statement of a relation of at most `size` nodes. A derived table has fewer nodes than the
relation around it, so none is ever too large. -/
def statementWithin : Nat → RendererOf Generator
  | 0, g, _ => (.error (.maxRecursion g.dialect.maxDepth), g)
  | size + 1, g, r => g.statementOver (statementWithin size) r

/-- The statement of a relation, and the generator after it. -/
def statement (g : Generator) (r : Relation) : Except SqlError String × Generator :=
  statementWithin r.size g r

end Generator

namespace Dialect

/-- Compiles a relation into one statement. -/
def compile (d : Dialect) (r : Relation) : Except SqlError String :=
  if !d.unions && r.containsUnion then .error SqlError.unionUnsupported
  else ((Generator.new d).statement r).1

/-- The text of a literal, as it stands in a query. -/
def literalText (d : Dialect) (value : Literal) : Except SqlError String :=
  (Expr.literal value).sql d (Context.new d.alwaysAlias)

end Dialect

end TableQuery
