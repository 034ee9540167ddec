import TableQuery.Retry
import TableQuery.Session.Dialogue
import TableQuery.Sql.Statement

/-!
# Sessions

A session is a connection to a server together with what was settled when it was opened: the way
results come back, the dialect, and how often to try to connect. It moves to another database by
opening a new connection before it closes the old one, so that it has a connection at all times.
-/

namespace TableQuery

/-- A session. -/
structure Session where
  /-- The number of the current connection. -/
  connection : Nat
  /-- How the current connection was opened. -/
  params : ConnectParams
  mode : ExecutionMode
  dialect : Dialect
  retry : RetrySettings
  /-- Whether there is a compiler for user functions. -/
  hasCompiler : Bool

namespace Session

/-- The dialect that the settings choose. -/
def dialectOf (s : CompilerSettings) : Except ClientError Dialect :=
  match Dialect.ofName? s.dialect with
  | none => .error (.unknownDialect s.dialect)
  | some d =>
    .ok { d with
      nonEquiJoins := s.nonEquiJoins, alwaysAlias := s.alwaysAlias, maxDepth := s.maxDepth }

/-- Waits before the attempt that follows a failed one. -/
def pauseAfter (retry : RetrySettings) (attempt : Nat) : Dialogue Unit := do
  let jitter ← Dialogue.request .jitter
  let jitter : Fin 1000 := jitter
  Dialogue.request (.pause (retry.delay attempt jitter))

/-- Opens the connection of a number, trying more than once. -/
def openConnection (connection : Nat) (params : ConnectParams) (retry : RetrySettings) :
    Attempt Unit :=
  Attempt.ofReasons (.connection params.host params.port)
    (Retry.always retry.maxAttempts (pauseAfter retry)
      (Dialogue.request (.connect connection params)))

/-- Opens a session. Nothing is asked of the server unless all settings are in order. -/
def connect (settings : Settings) (hasCompiler : Bool) : Attempt Session := do
  let params ← Attempt.ofResult (ConnectParams.ofSettings settings.connection)
  let mode ← Attempt.ofResult
    (ExecutionMode.resolve settings.connection.ipc settings.connection.gpuDevice)
  let dialect ← Attempt.ofResult (dialectOf settings.compiler)
  openConnection 0 params settings.retry
  return ⟨0, params, mode, dialect, settings.retry, hasCompiler⟩

/-- Moves to another database. If that is where the session is, nothing happens; if no connection
can be opened, the session stays as it is. Whether the old connection can be closed does not
matter. -/
def setDatabase (s : Session) (name : String) : Attempt Session :=
  if s.params.database = some name then return s
  else do
    let params := s.params.withDatabase name
    let next := s.connection + 1
    openConnection next params s.retry
    let _ ← Dialogue.request (.close s.connection)
    return { s with connection := next, params := params }

/-- Closes the connection. -/
def close (s : Session) : Attempt Unit :=
  Attempt.ofReasons .driver (Dialogue.request (.close s.connection))

/-- Runs a statement. An error carries the statement. -/
def run (s : Session) (sql : String) (mode : ExecutionMode) : Attempt QueryResult :=
  Attempt.ofReasons (fun reason => .execution reason sql)
    (Dialogue.request (.execute s.connection sql mode))

end Session

end TableQuery
