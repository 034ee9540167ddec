import TableQuery.Settings.Basic
import TableQuery.Url.Basic

/-!
# Checking settings

Rules that settings keep beyond their types: names are not empty, limits are positive, and an
address is absolute.
-/

namespace TableQuery

/-- The rules that a setting can break. -/
inductive SettingRule where
  /-- Texts have at least one character. -/
  | length
  /-- Numbers are positive. -/
  | range
  | uri
  deriving DecidableEq, Repr

/-- The word for a rule. -/
def SettingRule.code : SettingRule → String
  | .length => "length"
  | .range => "range"
  | .uri => "invalid_uri"

/-- A setting that breaks a rule. -/
structure SettingFault where
  /-- The section and the name of the setting. -/
  path : String
  rule : SettingRule
  deriving DecidableEq, Repr

namespace Settings

/-- The fault of a setting that does not keep a rule. -/
def faultUnless (kept : Bool) (path : String) (rule : SettingRule) : List SettingFault :=
  if kept then [] else [⟨path, rule⟩]

/-- All faults, in the order of their paths. -/
def faults (s : Settings) : List SettingFault :=
  faultUnless (!s.compiler.dialect.isEmpty) "compiler.dialect" .length
    ++ faultUnless (1 ≤ s.compiler.maxDepth) "compiler.max_depth" .range
    ++ faultUnless (!s.connection.host.isEmpty) "connection.host" .length
    ++ faultUnless (1 ≤ s.connection.port) "connection.port" .range
    ++ faultUnless (s.connection.uri.all Url.isAbsolute) "connection.uri" .uri
    ++ faultUnless (1 ≤ s.retry.maxAttempts) "retry.max_attempts" .range

end Settings

end TableQuery
