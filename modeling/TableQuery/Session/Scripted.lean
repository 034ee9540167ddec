import TableQuery.Json.Basic
import TableQuery.Session.Dialogue

/-!
# Servers with a script

A server that answers from a script, for trying out sessions without a network. The script tells
which connections, statements and calls fail and why; whatever does not fail has a fixed answer. The
server keeps a journal.
-/

namespace TableQuery

/-! ## The journal

The requests that change something or run something, as lines in JSON. What only asks for names or
versions is not recorded, and neither is waiting.
-/

def ConnectTarget.toJson : ConnectTarget → Json
  | .session number => Json.strings ["session", number]
  | .uri address => Json.strings ["uri", address]
  | .credentials user password database =>
    Json.strings ["credentials", user, password, database]

def ConnectParams.toJson (p : ConnectParams) : Json :=
  .object
    [("target", p.target.toJson), ("kind", .string p.target.word), ("host", .string p.host),
     ("port", Json.nat p.port), ("protocol", .string p.protocol.word),
     ("database", Json.optional .string p.database)]

def ExecutionMode.toJson : ExecutionMode → Json
  | .cursor => .string "cursor"
  | .ipc => .string "ipc"
  | .gpuIpc device => .array [.string "gpu_ipc", Json.nat device]

/-- The line of a request in a journal, given the databases of the connections. -/
def Request.line? (databaseOf : Nat → String) : Request → Option Json
  | .connect _ params => some (.array [.string "connect", params.toJson])
  | .execute _ sql mode => some (.array [.string "execute", .string sql, mode.toJson])
  | .validate _ sql => some (Json.strings ["validate", sql])
  | .load _ table rows method =>
    some (.array [.string "load", .string table, Json.nat rows, .string method.word])
  | .close n => some (Json.strings ["close", databaseOf n])
  | .compile source signature =>
    some (Json.strings ["compile", source.name, source.body, signature])
  | .register => some (Json.strings ["register"])
  | _ => none

/-! ## The server -/

/-- A server with a script, and its state. -/
structure ScriptedServer where
  /-- How many attempts to connect will still fail. -/
  connectFailures : Nat
  /-- Starts of statements that fail, and the reasons. -/
  failingSql : List (String × String)
  /-- Starts of names of calls that fail, and the reasons. -/
  failingCalls : List (String × String)
  tables : List (String × List ColumnDetails)
  tableNames : List String
  databases : List String
  /-- The columns of every query. -/
  queryColumns : List ColumnDetails
  compileFailure : Option String
  registerFailure : Option String
  /-- The databases of the connections, the latest first. -/
  opened : List (Nat × String)
  /-- The journal, the latest line first. -/
  journal : List Json

namespace ScriptedServer

/-- Where statements run if nothing else is asked for. -/
def homeDatabase : String :=
  "heavyai"

def databaseOf (s : ScriptedServer) (connection : Nat) : String :=
  ((s.opened.find? (·.1 == connection)).map (·.2)).getD homeDatabase

/-- A value, unless a script lets what starts in a certain way fail. -/
def unlessFails {α : Type} (script : List (String × String)) (what : String) (value : α) :
    Except String α :=
  match script.find? fun (start, _) => start.isPrefixOf what with
  | some (_, reason) => .error reason
  | none => .ok value

/-- Success, unless there is a reason for failure. -/
def unlessReason : Option String → Except String Unit
  | some reason => .error reason
  | none => .ok ()

/-- The server after a request has been put into the journal. -/
def record (s : ScriptedServer) (r : Request) : ScriptedServer :=
  { s with journal := (r.line? s.databaseOf).toList ++ s.journal }

/-- The answer to an attempt to connect. -/
def answerConnect (s : ScriptedServer) (connection : Nat) (params : ConnectParams) :
    Except String Unit × ScriptedServer :=
  if s.connectFailures = 0 then
    (.ok (), { s with opened := (connection, params.database.getD homeDatabase) :: s.opened })
  else
    (.error ("Connection refused (" ++ toString s.connectFailures ++ " left)"),
      { s with connectFailures := s.connectFailures - 1 })

def tableColumns (s : ScriptedServer) (connection : Nat) (table : String) :
    Except String (List ColumnDetails) :=
  match s.tables.find? (·.1 == table) with
  | some (_, columns) => .ok columns
  | none =>
    .error ("Table/View " ++ table ++ " for catalog " ++ s.databaseOf connection
      ++ " does not exist")

/-- Answers a request. Statements have five rows in two batches. -/
def answer (r : Request) (s : ScriptedServer) : r.Answer × ScriptedServer :=
  let s := s.record r
  match r with
  | .connect n params => s.answerConnect n params
  | .execute _ sql _ => (unlessFails s.failingSql sql ⟨[3, 2]⟩, s)
  | .validate _ sql => (unlessFails s.failingSql sql s.queryColumns, s)
  | .tableDetails n table => (s.tableColumns n table, s)
  | .tables _ => (unlessFails s.failingCalls "table_names" s.tableNames, s)
  | .databases _ => (unlessFails s.failingCalls "databases" s.databases, s)
  | .currentDatabase n => (unlessFails s.failingCalls "current_database" (s.databaseOf n), s)
  | .version _ => (unlessFails s.failingCalls "version" "7.1.0", s)
  | .load .. => (unlessFails s.failingCalls "load" (), s)
  | .close _ => (unlessFails s.failingCalls "close" (), s)
  | .compile .. => (unlessReason s.compileFailure, s)
  | .register => (unlessReason s.registerFailure, s)
  | .jitter => ((0 : Fin 1000), s)
  | .pause _ => ((), s)

/-- Runs an attempt: its result, the server afterwards, and the journal of the attempt in order. -/
def run {α : Type} (s : ScriptedServer) (a : Attempt α) :
    Except ClientError α × ScriptedServer × List Json :=
  let (value, s) := Dialogue.run answer a.run { s with journal := [] }
  (value, s, s.journal.reverse)

end ScriptedServer

end TableQuery
