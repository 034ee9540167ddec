import TableQuery.Pattern.Reader
import TableQuery.QueryText.Statement
import TableQuery.QueryText.Terminator
import TableQuery.Session.Basic

/-!
# Queries of a session

Running results of queries, taking up tables and queries as relations, and asking what is there.
-/

namespace TableQuery.Session

/-! ## Running -/

/-- The statement for a relation. -/
def compile (s : Session) (r : Relation) : Except ClientError String :=
  (s.dialect.compile r).mapError .compilation

/-- Runs the statement for a relation. -/
def execute (s : Session) (r : Relation) : Attempt QueryResult := do
  let sql ← Attempt.ofResult (s.compile r)
  s.run sql s.mode

/-- Runs a statement as it is. -/
def runText (s : Session) (sql : String) : Attempt QueryResult :=
  s.run sql s.mode

/-- Runs a statement as it is, where the result comes back in another way. -/
def runTextWith (s : Session) (sql : String) (ipc : Option Bool) (gpuDevice : Option Nat) :
    Attempt QueryResult := do
  let mode ← Attempt.ofResult (ExecutionMode.resolve ipc gpuDevice)
  s.run sql mode

/-! ## Relations -/

/-- The schema of columns that the server has reported. -/
def schemaOf (columns : List ColumnDetails) : Attempt Schema :=
  Attempt.ofResult ((Schema.ofDetails columns).mapError .compilation)

/-- Takes up the text of a single query as a relation with an identity. The server tells its
columns. -/
def query (s : Session) (text : String) (id : Nat) : Attempt Relation := do
  let text := QueryText.strip text
  Attempt.ofResult (QueryText.requireQuery text)
  let columns ← Attempt.ofReasons (fun reason => .execution reason text)
    (Dialogue.request (.validate s.connection text))
  let schema ← schemaOf columns
  return .sqlQuery id text schema

def describe (s : Session) (table : String) : Attempt (List ColumnDetails) :=
  Attempt.ofReasons .driver (Dialogue.request (.tableDetails s.connection table))

def schema (s : Session) (table : String) : Attempt Schema := do
  let columns ← s.describe table
  schemaOf columns

/-- Takes up a table as a relation with an identity. -/
def table (s : Session) (name : String) (id : Nat) : Attempt Relation := do
  let schema ← s.schema name
  return .table id name schema

/-! ## Names -/

/-- The names in which a pattern has a match; all of them where there is no pattern. -/
def namesLike (names : List String) : Option String → Except ClientError (List String)
  | none => .ok names
  | some like =>
    match Pattern.read? like with
    | none => .error (.invalidPattern like)
    | some pattern => .ok (names.filter pattern.matchesIn)

/-- The tables whose names have a match of a pattern. -/
def tables (s : Session) (like : Option String) : Attempt (List String) := do
  let names ← Attempt.ofReasons .driver (Dialogue.request (.tables s.connection))
  Attempt.ofResult (namesLike names like)

/-- The databases whose names have a match of a pattern. -/
def databases (s : Session) (like : Option String) : Attempt (List String) := do
  let names ← Attempt.ofReasons .driver (Dialogue.request (.databases s.connection))
  Attempt.ofResult (namesLike names like)

def hasTable (s : Session) (name : String) : Attempt Bool := do
  let names ← s.tables none
  return names.contains name

def hasDatabase (s : Session) (name : String) : Attempt Bool := do
  let names ← s.databases none
  return names.contains name

/-- The database in which the server runs statements. -/
def currentDatabase (s : Session) : Attempt String :=
  Attempt.ofReasons .driver (Dialogue.request (.currentDatabase s.connection))

/-- The version of the server. -/
def version (s : Session) : Attempt String :=
  Attempt.ofReasons .driver (Dialogue.request (.version s.connection))

end TableQuery.Session
