import TableQuery.ClientError
import TableQuery.QueryText.Token

/-!
# Statements of a query

Which statements a text holds, told by their first words and by how deep their parts nest, and
whether it is a single query.
-/

namespace TableQuery.QueryText

/-! ## Nesting

A statement, every query in it and every expression inside another one is a level; a part in
parentheses is a query or an expression by what stands in front of it and behind the parenthesis.
Statements may have fifty levels.
-/

/-- A part of a statement that is still open. -/
structure Part where
  /-- Whether the part is a query, and not an expression. -/
  isQuery : Bool
  /-- Whether an expression of the part is open. -/
  inExpression : Bool
  deriving DecidableEq, Repr

namespace Part

/-- A query of which nothing has been read. -/
def query : Part := ⟨true, false⟩

/-- An expression in parentheses. -/
def expression : Part := ⟨false, false⟩

/-- How many levels the part adds. -/
def levels (p : Part) : Nat :=
  if p.inExpression then 2 else 1

/-- Whether the words that start a clause of a query are followed by expressions. -/
def clauses : List (String × Bool) :=
  [("SELECT", true), ("WHERE", true), ("ON", true), ("BY", true), ("HAVING", true),
   ("LIMIT", true), ("OFFSET", true), ("FROM", false), ("JOIN", false), ("UNION", false),
   ("EXCEPT", false), ("INTERSECT", false), ("MINUS", false), ("WITH", false), ("VALUES", false)]

/-- Whether expressions follow the word, if it starts a clause of the part. -/
def clause? (p : Part) (word : String) : Option Bool :=
  if p.isQuery then (clauses.find? (·.1 == word)).map (·.2) else none

/-- The part that a parenthesis opens inside of the part, given what follows the parenthesis. -/
def opened (p : Part) (rest : List Token) : Part :=
  if p.isQuery && !p.inExpression then query
  else
    match rest with
    | .word w :: _ => if w == "SELECT" || w == "WITH" then query else expression
    | _ => expression

end Part

/-- How many levels are open. -/
def levels (parts : List Part) : Nat :=
  parts.foldl (fun n p => n + p.levels) 1

/-- The greatest number of levels. -/
def maxLevels : Nat := 50

/-- Whether the parentheses of the tokens match and no level is too deep; the innermost of the open
parts comes first. -/
def nests : List Part → List Token → Bool
  | parts, [] => parts.length == 1
  | [], _ :: _ => false
  | part :: parts, .openParen :: rest =>
    levels (part :: parts) ≤ maxLevels && nests (part.opened rest :: part :: parts) rest
  | _ :: parts, .closeParen :: rest => nests parts rest
  | part :: parts, .word w :: rest =>
    match part.clause? w with
    | some inExpression =>
      levels ({ part with inExpression := false } :: parts) ≤ maxLevels
        && nests ({ part with inExpression } :: parts) rest
    | none => levels (part :: parts) ≤ maxLevels && nests (part :: parts) rest
  | parts, .star :: rest => nests parts rest
  | parts, _ :: rest => levels parts ≤ maxLevels && nests parts rest

/-! ## Statements -/

/-- What a statement does. -/
inductive StatementKind where
  /-- Has rows as its result. -/
  | query
  /-- Changes or explains something. -/
  | command
  deriving DecidableEq, Repr

namespace StatementKind

/-- The words that start a query. -/
def queryWords : List String :=
  ["SELECT", "WITH", "VALUES", "FROM"]

/-- The further words that start a query in parentheses. -/
def nestedWords : List String :=
  ["TABLE", "INSERT", "UPDATE"]

/-- The words that start a command. -/
def commandWords : List String :=
  ["ALTER", "ANALYZE", "CREATE", "DELETE", "DESCRIBE", "DROP", "EXPLAIN", "GRANT", "INSERT",
   "MERGE", "REVOKE", "SET", "SHOW", "TRUNCATE", "UPDATE", "USE"]

/-- Whether more words follow than the first one. -/
def hasBody : List Token → Bool
  | [] => false
  | .closeParen :: _ => false
  | _ => true

/-- Whether the tokens behind a parenthesis are those of a query. -/
def startsNested : List Token → Bool
  | .openParen :: rest => startsNested rest
  | .word w :: rest => (queryWords.contains w || nestedWords.contains w) && hasBody rest
  | _ => false

/-- The kind of a statement, if it is one. A query may stand in parentheses. -/
def ofTokens? : List Token → Option StatementKind
  | .openParen :: rest => if startsNested rest then some .query else none
  | .word w :: rest =>
    if !hasBody rest then none
    else if queryWords.contains w then some .query
    else if commandWords.contains w then some .command
    else none
  | _ => none

end StatementKind

/-- The kind of a statement whose parentheses match and which is not too deep. -/
def statement? (tokens : List Token) : Option StatementKind :=
  if nests [.query] tokens then StatementKind.ofTokens? tokens else none

/-- The statements of a text; `none` where one of them is not a statement. There may be nothing
between two semicolons. -/
def statements? (text : String) : Option (List StatementKind) :=
  let cs := text.toList
  match tokens? (cs.length + 1) cs with
  | none => none
  | some ts => ((ts.splitOn .semicolon).filter fun part => !part.isEmpty).mapM statement?

/-- Checks that a text is a single query. -/
def requireQuery (text : String) : Except ClientError Unit :=
  match statements? text with
  | none => .error .unparsableQuery
  | some [.query] => .ok ()
  | some [] => .error .emptyQuery
  | some [.command] => .error .notASelect
  | some many => .error (.severalStatements many.length)

end TableQuery.QueryText
