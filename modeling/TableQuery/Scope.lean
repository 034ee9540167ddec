import TableQuery.Identifier.Basic
import TableQuery.Relation

/-!
# Scopes

What a statement's `FROM` clause makes visible, and how a column reference finds its item there: the
very relation first, then relations that are part of the clause, then the only item built from the
relation, and at last a name that only one item has.
-/

namespace TableQuery

/-- One item of a `FROM` clause. -/
structure ScopeEntry where
  relation : Relation
  alias? : Option String
  columns : List String

namespace ScopeEntry

/-- Whether the item has a column with the name. -/
def exposes (e : ScopeEntry) (name : String) : Bool :=
  e.columns.contains name

/-- The column of the item as it is shown among candidates. -/
def candidate (e : ScopeEntry) (name : String) : String :=
  match e.alias? with
  | some a => a ++ "." ++ name
  | none => name

end ScopeEntry

/-- What a statement's clauses can refer to. -/
structure Scope where
  entries : List ScopeEntry
  /-- Whether columns are written with the alias of their item. -/
  qualify : Bool
  /-- Relations that are part of the clause without being one of its items. -/
  passThrough : List Origin
  /-- The statement's own columns, which are written by their bare names. -/
  outputs : Option (Origin × List String)

namespace Scope

/-- The items that have a column with the name. -/
def exposing (s : Scope) (name : String) : List ScopeEntry :=
  s.entries.filter (·.exposes name)

/-- The names of all columns of all items. -/
def available (s : Scope) : List String :=
  s.entries.flatMap (·.columns)

/-- The only item that has a column with the name. -/
def byName (s : Scope) (name : String) : Except SqlError ScopeEntry :=
  match s.exposing name with
  | [] => .error (.columnNotFound name s.available)
  | [entry] => .ok entry
  | entries => .error (.ambiguousColumn name (entries.map (·.candidate name)))

/-- The item itself, if it has a column with the name. -/
def checked (entry : ScopeEntry) (name : String) : Except SqlError ScopeEntry :=
  if entry.exposes name then .ok entry else .error (.columnNotFound name entry.columns)

/-- The items built from a relation. -/
def containing (s : Scope) (o : Origin) : List ScopeEntry :=
  s.entries.filter (·.relation.contains o)

/-- The item that a column belongs to. -/
def resolve (s : Scope) (col : ColumnRef) : Except SqlError ScopeEntry :=
  match s.entries.find? (·.relation.origin == col.origin) with
  | some entry => checked entry col.name
  | none =>
    if s.passThrough.contains col.origin then s.byName col.name
    else
      match s.containing col.origin with
      | [entry] => checked entry col.name
      | _ => s.byName col.name

/-- Whether the column is one of the statement's own. -/
def isOutput (s : Scope) (col : ColumnRef) : Bool :=
  match s.outputs with
  | some (origin, names) => origin == col.origin && names.contains col.name
  | none => false

def columnText (s : Scope) (col : ColumnRef) : Except SqlError String :=
  if s.isOutput col then Identifier.safe col.name
  else
    match s.resolve col with
    | .error e => .error e
    | .ok entry =>
      (Identifier.safe col.name).map fun name =>
        match entry.alias?, s.qualify with
        | some a, true => a ++ "." ++ name
        | _, _ => name

end Scope

/-- The state of compiling: the scopes that are open, the innermost first, and the number of the
next alias. -/
structure Context where
  alwaysAlias : Bool
  nextAlias : Nat
  scopes : List Scope

namespace Context

/-- No scope, no alias drawn. -/
def new (alwaysAlias : Bool) : Context :=
  ⟨alwaysAlias, 0, []⟩

/-- Draws the next alias. -/
def drawAlias (c : Context) : String × Context :=
  ("t" ++ toString c.nextAlias, { c with nextAlias := c.nextAlias + 1 })

/-- Opens a scope. -/
def push (c : Context) (s : Scope) : Context :=
  { c with scopes := s :: c.scopes }

/-- Closes the innermost scope, if there is one. -/
def pop (c : Context) : Context :=
  { c with scopes := c.scopes.drop 1 }

/-- The innermost scope. -/
def top? (c : Context) : Option Scope :=
  c.scopes.head?

/-- The number of open scopes. -/
def depth (c : Context) : Nat :=
  c.scopes.length

/-- Closes the innermost scopes until at most `depth` are open. -/
def rollback (c : Context) (depth : Nat) : Context :=
  { c with scopes := c.scopes.drop (c.depth - depth) }

/-- The text of a column in the innermost scope. -/
def columnText (c : Context) (col : ColumnRef) : Except SqlError String :=
  match c.top? with
  | some s => s.columnText col
  | none => .error (.columnNotFound col.name [])

end Context

end TableQuery
