import TableQuery.Text.Inspect

/-!
# Errors of SQL generation

Everything that can keep a table expression from becoming SQL text, as causes. The wording is in
`SqlError.message`.
-/

namespace TableQuery

/-- Why a table expression, a type or a name has no SQL text. -/
inductive SqlError where
  | unsupportedType (token : String)
  | unsupportedOperator (operator dialect : String)
  | unsupportedStatement (reason : String)
  | nonEquiJoin (predicate : String)
  | arityMismatch (function expected : String) (actual : Nat)
  | unsupportedExpr (reason : String)
  | ambiguousColumn (name : String) (candidates : List String)
  | columnNotFound (column : String) (available : List String)
  | invalidIdentifier (reason : String)
  | invalidRewrite (rule reason : String)
  | maxRecursion (limit : Nat)
  deriving DecidableEq, Repr

namespace SqlError

/-- The error of every statement that combines two results. -/
def unionUnsupported : SqlError :=
  .unsupportedStatement "HeavyDB backend doesn't support Union operation"

/-- The text of an error. -/
def message : SqlError → String
  | .unsupportedType token => "Type '" ++ token ++ "' has no HeavyDB mapping"
  | .unsupportedOperator operator dialect =>
    "Operation '" ++ operator ++ "' is not supported by the " ++ dialect ++ " backend"
  | .unsupportedStatement reason => reason
  | .nonEquiJoin predicate =>
    "Non-equality join predicates, i.e. non-equijoins, are not supported (predicate: "
      ++ predicate ++ ")"
  | .arityMismatch function expected actual =>
    "Function '" ++ function ++ "' takes " ++ expected ++ " argument(s) but " ++ toString actual
      ++ " were given"
  | .unsupportedExpr reason => "Unsupported expression: " ++ reason
  | .ambiguousColumn name candidates =>
    "Ambiguous column reference: " ++ name ++ ". Candidates: " ++ inspect candidates
  | .columnNotFound column available =>
    "Column '" ++ column ++ "' not found. Available: " ++ inspect available
  | .invalidIdentifier reason => "Invalid identifier: " ++ reason
  | .invalidRewrite rule reason => "Invalid rewrite rule '" ++ rule ++ "': " ++ reason
  | .maxRecursion limit => "Maximum recursion depth (" ++ toString limit ++ ") exceeded"

end SqlError

end TableQuery
