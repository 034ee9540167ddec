import TableQuery.Session.Basic

/-!
# User functions in a session

A function is compiled on the server for its types, and can be called once it is registered.
-/

namespace TableQuery

/-- Compiles and registers a function. Types that the server does not know are refused before it is
asked. -/
def UdfSignature.compile (signature : UdfSignature) (source : UdfSource) : Attempt Udf := do
  let text ← Attempt.ofResult signature.text
  Attempt.ofReasons (.remoteCompile source.name) (Dialogue.request (.compile source text))
  Attempt.ofReasons (.remoteCompile source.name) (Dialogue.request .register)
  return signature.named source.name

/-- Compiles and registers a function, if the session has a compiler. -/
def Session.compileFunction (s : Session) (signature : UdfSignature) (source : UdfSource) :
    Attempt Udf :=
  if s.hasCompiler then signature.compile source
  else Attempt.ofResult (.error .noRemoteCompiler)

end TableQuery
