import TableQuery.Settings.Basic

/-!
# Reading settings

How settings are drawn from the values of a data format. A format says which of its values are
texts, truth values, words and records; the names of the settings, and what counts when one is not
given, are the same for all formats.
-/

namespace TableQuery

/-- What the values of a data format stand for. -/
structure SettingFormat (α : Type) where
  isNull : α → Bool
  text? : α → Option String
  flag? : α → Option Bool
  /-- A natural number of some bits. -/
  word? : Nat → α → Option Nat
  protocol? : α → Option Protocol
  /-- The named parts of a value, if it is a record of the given fields. -/
  record? : List String → α → Option (List (String × α))

namespace SettingFormat

variable {α : Type} (f : SettingFormat α)

/-- A value that may be absent. -/
def optional? {β : Type} (decode : α → Option β) (v : α) : Option (Option β) :=
  if f.isNull v then some none else (decode v).map some

/-- The named part of a record, or what counts when there is none. -/
def part? {β : Type} (parts : List (String × α)) (name : String) (default : β)
    (decode : α → Option β) : Option β :=
  match parts.find? (·.1 == name) with
  | none => some default
  | some (_, v) => decode v

/-- How to reach the server. -/
def connection? (v : α) : Option ConnectionSettings := do
  let s : ConnectionSettings := {}
  let parts ← f.record?
    ["uri", "user", "password", "host", "port", "database", "protocol", "session_id", "ipc",
      "gpu_device"] v
  return {
    uri := ← part? parts "uri" s.uri (f.optional? f.text?)
    user := ← part? parts "user" s.user (f.optional? f.text?)
    password := ← part? parts "password" s.password (f.optional? f.text?)
    host := ← part? parts "host" s.host f.text?
    port := ← part? parts "port" s.port (f.word? 16)
    database := ← part? parts "database" s.database (f.optional? f.text?)
    protocol := ← part? parts "protocol" s.protocol f.protocol?
    sessionId := ← part? parts "session_id" s.sessionId (f.optional? f.text?)
    ipc := ← part? parts "ipc" s.ipc (f.optional? f.flag?)
    gpuDevice := ← part? parts "gpu_device" s.gpuDevice (f.optional? (f.word? 32)) }

/-- How to compile. -/
def compiler? (v : α) : Option CompilerSettings := do
  let s : CompilerSettings := {}
  let parts ← f.record? ["dialect", "non_equijoin_supported", "always_alias", "max_depth"] v
  return {
    dialect := ← part? parts "dialect" s.dialect f.text?
    nonEquiJoins := ← part? parts "non_equijoin_supported" s.nonEquiJoins f.flag?
    alwaysAlias := ← part? parts "always_alias" s.alwaysAlias f.flag?
    maxDepth := ← part? parts "max_depth" s.maxDepth (f.word? 64) }

/-- How often to try. -/
def retrying? (v : α) : Option RetrySettings := do
  let s : RetrySettings := {}
  let parts ← f.record? ["max_attempts", "base_delay_ms", "max_delay_ms"] v
  return {
    maxAttempts := ← part? parts "max_attempts" s.maxAttempts (f.word? 32)
    baseDelay := ← part? parts "base_delay_ms" s.baseDelay (f.word? 64)
    maxDelay := ← part? parts "max_delay_ms" s.maxDelay (f.word? 64) }

/-- What to log. -/
def logging? (v : α) : Option LoggingSettings := do
  let s : LoggingSettings := {}
  let parts ← f.record? ["filter", "json"] v
  return {
    filter := ← part? parts "filter" s.filter f.text?
    json := ← part? parts "json" s.json f.flag? }

def settings? (v : α) : Option Settings := do
  let parts ← f.record? ["connection", "compiler", "retry", "logging"] v
  return {
    connection := ← part? parts "connection" {} f.connection?
    compiler := ← part? parts "compiler" {} f.compiler?
    retry := ← part? parts "retry" {} f.retrying?
    logging := ← part? parts "logging" {} f.logging? }

end SettingFormat

end TableQuery
