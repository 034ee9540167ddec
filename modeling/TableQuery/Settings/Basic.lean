/-!
# Settings

Everything a user can set: how to reach the server, how to compile, how often to try and what to
log. Each setting that is not given has a default.
-/

namespace TableQuery

/-- How messages travel to the server. -/
inductive Protocol where
  | binary | http | https
  deriving DecidableEq, Repr

namespace Protocol

def catalog : List Protocol :=
  [.binary, .http, .https]

def word : Protocol → String
  | .binary => "binary"
  | .http => "http"
  | .https => "https"

def ofWord? (w : String) : Option Protocol :=
  catalog.find? (·.word == w)

end Protocol

/-- How to reach the server and who is asking. -/
structure ConnectionSettings where
  uri : Option String := none
  user : Option String := none
  password : Option String := none
  host : String := "localhost"
  port : Nat := 6274
  database : Option String := none
  protocol : Protocol := .binary
  sessionId : Option String := none
  /-- Whether results come through shared memory; if not given, they do for a graphics card. -/
  ipc : Option Bool := none
  /-- The graphics card that runs the queries. -/
  gpuDevice : Option Nat := none
  deriving DecidableEq, Repr

/-- How expressions are compiled. -/
structure CompilerSettings where
  dialect : String := "heavydb"
  nonEquiJoins : Bool := true
  alwaysAlias : Bool := false
  maxDepth : Nat := 256
  deriving DecidableEq, Repr

/-- How often an operation is tried and how long to wait in between, in milliseconds. -/
structure RetrySettings where
  maxAttempts : Nat := 5
  baseDelay : Nat := 1000
  maxDelay : Nat := 60000
  deriving DecidableEq, Repr

/-- What is logged. -/
structure LoggingSettings where
  filter : String := "info"
  json : Bool := false
  deriving DecidableEq, Repr

/-- All settings. -/
structure Settings where
  connection : ConnectionSettings := {}
  compiler : CompilerSettings := {}
  retry : RetrySettings := {}
  logging : LoggingSettings := {}
  deriving DecidableEq, Repr

end TableQuery
