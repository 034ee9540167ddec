import TableQuery.Relation
import TableQuery.Rewrite.Basic
import TableQuery.Spelling.Standard

/-!
# Dialects

What compiling needs to know about the server's SQL: how operations are spelled and rewritten, which
joins exist, how text is laid out and how deep statements may nest.
-/

namespace TableQuery

/-- A dialect of SQL. -/
structure Dialect where
  name : String
  displayName : String
  spellings : Spellings
  rewrites : RewriteSet
  /-- Whether every table gets an alias and every item a name, needed or not. -/
  alwaysAlias : Bool
  /-- Whether a join condition may be other than an equality. -/
  nonEquiJoins : Bool
  /-- Whether results may be combined; planning refuses such relations in any case. -/
  unions : Bool
  /-- The number of spaces of one level of nesting. -/
  indent : Nat
  /-- The number of statements that may stand around a statement. -/
  maxDepth : Nat

namespace Dialect

/-- The dialect of the server. -/
def standard : Dialect where
  name := "heavydb"
  displayName := "HeavyDB"
  spellings := Spellings.standard
  rewrites := RewriteSet.standard
  alwaysAlias := false
  nonEquiJoins := true
  unions := false
  indent := 2
  maxDepth := 256

/-- The names under which the server has been published. -/
def knownNames : List String :=
  ["heavydb", "heavyai", "omnisci", "omniscidb", "mapd"]

/-- The dialect for the name of a server, in any case. -/
def ofName? (name : String) : Option Dialect :=
  if knownNames.contains (Text.lowercase name) then some standard else none

/-- The keyword of a join, for those that the dialect has. A semi join is written as a plain one. -/
def joinLabel? (_ : Dialect) : JoinKind → Option String
  | .inner | .leftSemi | .cross => some "JOIN"
  | .left => some "LEFT JOIN"
  | .right | .outer | .leftAnti => none

/-- The spelling rule for a call with a number of arguments. -/
def ruleFor (d : Dialect) (op : Operation) (args : Nat) : Except SqlError SpellingRule :=
  match d.spellings.rule? op with
  | none => .error (.unsupportedOperator op.name d.displayName)
  | some rule =>
    if rule.arity.accepts args then .ok rule
    else .error (.arityMismatch op.name rule.arity.text args)

/-- The layout of a dialect for developers. -/
def inspected (d : Dialect) : String :=
  Inspect.record "DialectConfig"
    [("name", inspect d.name), ("registry", d.spellings.inspected),
     ("always_alias", inspect d.alwaysAlias),
     ("non_equijoin_supported", inspect d.nonEquiJoins), ("max_depth", inspect d.maxDepth)]

end Dialect

end TableQuery
