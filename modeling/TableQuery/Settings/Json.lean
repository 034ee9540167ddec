import TableQuery.Json.Decode
import TableQuery.Settings.Format

/-!
# Settings in JSON

Settings are read strictly: no value is taken for one of another type. A password is never written
out.
-/

namespace TableQuery

namespace Settings

/-- A protocol is its word, or a record whose only member is named by it and `null`. -/
def protocolOfJson? : Json → Option Protocol
  | .string w => Protocol.ofWord? w
  | .object [(w, .null)] => Protocol.ofWord? w
  | _ => none

/-- The values of JSON, each for what it is. -/
def jsonFormat : SettingFormat Json where
  isNull
    | .null => true
    | _ => false
  text? := Json.asString?
  flag? := Json.asBool?
  word? := Json.asWord?
  protocol? := protocolOfJson?
  record? names := Json.fields? names false

def ofJson? (j : Json) : Option Settings :=
  jsonFormat.settings? j

/-- What is written in place of a password. -/
def concealed : String :=
  "[REDACTED]"

def connectionJson (s : ConnectionSettings) : Json :=
  let password := (s.password.map fun _ => ("password", Json.string concealed)).toList
  .object <|
    [("uri", Json.optional .string s.uri), ("user", Json.optional .string s.user)] ++ password ++
    [("host", .string s.host), ("port", Json.nat s.port),
     ("database", Json.optional .string s.database), ("protocol", .string s.protocol.word),
     ("session_id", Json.optional .string s.sessionId), ("ipc", Json.optional .bool s.ipc),
     ("gpu_device", Json.optional Json.nat s.gpuDevice)]

def compilerJson (s : CompilerSettings) : Json :=
  .object
    [("dialect", .string s.dialect), ("non_equijoin_supported", .bool s.nonEquiJoins),
     ("always_alias", .bool s.alwaysAlias), ("max_depth", Json.nat s.maxDepth)]

def retryJson (s : RetrySettings) : Json :=
  .object
    [("max_attempts", Json.nat s.maxAttempts), ("base_delay_ms", Json.nat s.baseDelay),
     ("max_delay_ms", Json.nat s.maxDelay)]

def loggingJson (s : LoggingSettings) : Json :=
  .object [("filter", .string s.filter), ("json", .bool s.json)]

def toJson (s : Settings) : Json :=
  .object
    [("connection", connectionJson s.connection), ("compiler", compilerJson s.compiler),
     ("retry", retryJson s.retry), ("logging", loggingJson s.logging)]

end Settings

end TableQuery
