import TableQuery.Fault.OfSqlError

/-!
# Errors of a client

Everything that can go wrong between a user and the server, as causes, with the text and the coded
form of each.
-/

namespace TableQuery

/-- Why something asked of a client has failed. -/
inductive ClientError where
  /-- The expression has no SQL text. -/
  | compilation (error : SqlError)
  | connection (host : String) (port : Nat) (reason : String)
  | driver (reason : String)
  /-- The server has refused a statement. -/
  | execution (reason sql : String)
  | missingCredentials
  | invalidExecutionType
  | unsupportedType (name : String)
  | emptyQuery
  | notASelect
  | severalStatements (count : Nat)
  /-- The text of a query does not parse. -/
  | unparsableQuery
  | invalidPattern (pattern : String)
  | invalidEncoding (encoding : String)
  | noColumnsToAdd
  | noColumnsToDrop
  | remoteCompile (name reason : String)
  | notImplemented (what : String)
  | unknownDialect (name : String)
  | unknownLoadMethod (name : String)
  | noRemoteCompiler
  deriving DecidableEq, Repr

namespace ClientError

/-- The kinds of errors, under which the causes are told apart by programs. -/
inductive Kind where
  | compilation | connection | driver | execution | invalidConnectionParams | invalidExecutionType
  | unsupportedType | invalidQuery | remoteCompile | notImplemented | config
  deriving DecidableEq, Repr

def kind : ClientError → Kind
  | .compilation _ => .compilation
  | .connection .. => .connection
  | .driver _ => .driver
  | .execution .. => .execution
  | .missingCredentials => .invalidConnectionParams
  | .invalidExecutionType => .invalidExecutionType
  | .unsupportedType _ => .unsupportedType
  | .emptyQuery | .notASelect | .severalStatements _ | .unparsableQuery | .invalidPattern _
  | .invalidEncoding _ | .noColumnsToAdd | .noColumnsToDrop => .invalidQuery
  | .remoteCompile .. => .remoteCompile
  | .notImplemented _ => .notImplemented
  | .unknownDialect _ | .unknownLoadMethod _ | .noRemoteCompiler => .config

/-- What is wrong with a query. -/
def queryReason : ClientError → String
  | .emptyQuery => "Empty query"
  | .notASelect => "Only SELECT queries can be used as a table expression"
  | .severalStatements n => "Expected a single statement, got " ++ toString n
  | .unparsableQuery => "sql parser error"
  | .invalidPattern p => "Invalid pattern '" ++ p ++ "'"
  | .invalidEncoding e => "Invalid column encoding '" ++ e ++ "'"
  | .noColumnsToAdd => "add_columns needs at least one column"
  | .noColumnsToDrop => "drop_columns needs at least one column"
  | _ => ""

/-- What is wrong with the settings. -/
def configReason : ClientError → String
  | .unknownDialect name => "No dialect available for '" ++ name ++ "'"
  | .unknownLoadMethod name =>
    "Unknown load method '" ++ name ++ "', expected one of rows, columnar, arrow, infer"
  | .noRemoteCompiler => "No remote UDF compiler configured"
  | _ => ""

/-- The text of an error. -/
def message (e : ClientError) : String :=
  match e with
  | .compilation error => error.message
  | .connection host port reason =>
    "Could not connect to " ++ host ++ ":" ++ toString port ++ ": " ++ reason
  | .driver reason => "Driver error: " ++ reason
  | .execution reason sql => reason ++ "\n\n" ++ sql
  | .missingCredentials =>
    "If `session_id` is not provided, then the connection `uri` or all `user`, `password` and "
      ++ "`database` must be provided."
  | .invalidExecutionType => "If a GPU device is provided, `ipc` must be true or unset"
  | .unsupportedType name => "Unsupported type: " ++ name
  | .remoteCompile name reason =>
    "Remote compilation of UDF '" ++ name ++ "' failed: " ++ reason
  | .notImplemented what => what ++ " is not implemented yet"
  | e =>
    match e.kind with
    | .config => "Invalid configuration: " ++ e.configReason
    | _ => "Invalid query: " ++ e.queryReason

def toFault (e : ClientError) : Fault :=
  match e with
  | .compilation error => error.toFault "heavydb"
  | .connection host port _ =>
    (Fault.new .connectionFailed e.message).withContext
      (.connection (some host) (some port) none none)
  | .driver _ => Fault.new .driverInternal e.message
  | .execution reason sql => (Fault.new .executionFailed reason).withContext (.execution sql)
  | .missingCredentials =>
    (Fault.new .missingRequiredField e.message).withHint
      "Set `session_id`, `uri`, or `user`, `password` and `database`"
  | .invalidExecutionType => Fault.new .invalidExecutionType e.message
  | .unsupportedType _ => Fault.new .unsupportedType e.message
  | .remoteCompile .. => Fault.new .remoteCompilationFailed e.message
  | .notImplemented _ => Fault.new .notImplemented e.message
  | e =>
    match e.kind with
    | .config => Fault.new .invalidConfig e.message
    | _ => Fault.new .syntaxError e.message

end ClientError

end TableQuery
