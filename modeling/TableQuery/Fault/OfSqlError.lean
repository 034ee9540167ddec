import TableQuery.EditDistance
import TableQuery.Fault.Basic
import TableQuery.SqlError

/-!
# Faults of SQL generation

The code, the context and the hint that belong to each error of SQL generation.
-/

namespace TableQuery.SqlError

/-- The hint for a column that is not there: a name much like it. -/
def columnHint (column : String) (available : List String) : Option String :=
  (EditDistance.closest? column available).map fun name => "Did you mean '" ++ name ++ "'?"

def toFault (e : SqlError) (dialect : String) : Fault :=
  match e with
  | .unsupportedType token =>
    ((Fault.new .unsupportedType e.message).withContext (.unsupported token dialect)).withHint
      "Cast the value to a type HeavyDB can store"
  | .unsupportedOperator operator dialect =>
    ((Fault.new .unsupportedOperator e.message).withContext
      (.unsupported operator dialect)).withHint
      "This operation has no HeavyDB translation; compute it client-side"
  | .unsupportedStatement _ =>
    (Fault.new .unsupportedStatement e.message).withHint
      "Run each side separately and combine the results"
  | .nonEquiJoin predicate =>
    ((Fault.new .nonEquiJoin e.message).withContext
      (.generic [("predicate", .string predicate)])).withHint
      "Rewrite the join condition using column equality"
  | .arityMismatch function expected actual =>
    (Fault.new .arityMismatch e.message).withContext (.arity function expected actual)
  | .unsupportedExpr _ =>
    (Fault.new .notImplemented e.message).withHint
      "This expression might not have a mapping for the target dialect"
  | .ambiguousColumn _ _ =>
    (Fault.new .ambiguousColumn e.message).withHint
      "Try selecting the column from a specific table expression"
  | .columnNotFound column available =>
    ((Fault.new .fieldNotFound e.message).withContext
      (.fieldNotFound column none available)).withHint? (columnHint column available)
  | .invalidIdentifier _ =>
    (Fault.new .syntaxError e.message).withHint
      "Identifiers must be sanitized to prevent SQL injection"
  | .invalidRewrite _ _ => Fault.new .internalState e.message
  | .maxRecursion _ =>
    (Fault.new .internalState e.message).withHint
      "This query might be too deeply nested or circular"

end TableQuery.SqlError
