import TableQuery.ClientError
import TableQuery.Expr.Basic
import TableQuery.TypeName

/-!
# User functions

Functions of a row that run on the server. A signature names the types of a function: the output
and, in parentheses, the inputs.
-/

namespace TableQuery

/-- The types of a function of a row. -/
structure UdfSignature where
  inputs : List DataType
  output : DataType
  deriving DecidableEq, Repr

/-- The source of a function to be compiled on the server. -/
structure UdfSource where
  name : String
  body : String
  deriving DecidableEq, Repr

/-- A function that the server knows. -/
structure Udf where
  name : String
  signature : UdfSignature
  deriving DecidableEq, Repr

namespace UdfSignature

/-- The text of a signature, if the server knows all of its types. -/
def text (s : UdfSignature) : Except ClientError String :=
  match (s.inputs ++ [s.output]).find? (fun t => (TypeName.ofDataType? t).isNone) with
  | some t => .error (.unsupportedType t.hostName)
  | none =>
    .ok (s.output.hostName ++ "(" ++ ", ".intercalate (s.inputs.map DataType.hostName) ++ ")")

/-- The function of a name with these types. -/
def named (s : UdfSignature) (name : String) : Udf :=
  ⟨name, s⟩

end UdfSignature

namespace Udf

/-- A call of the function, if the number of arguments is right. -/
def call (f : Udf) (args : List Expr) : Except ClientError Expr :=
  if args.length = f.signature.inputs.length then .ok (.udf f.name args f.signature.output)
  else
    .error (.compilation
      (.arityMismatch f.name (toString f.signature.inputs.length) args.length))

/-- Functions that fold many rows are not there yet. -/
def reductionUnavailable : ClientError :=
  .notImplemented "Reduction UDFs"

/-- Functions over windows are not there yet. -/
def analyticUnavailable : ClientError :=
  .notImplemented "Analytic UDFs"

end Udf

instance : Inspect Udf where
  inspect f :=
    Inspect.record "ElementwiseUdf"
      [("name", inspect f.name), ("inputs", inspect f.signature.inputs),
       ("output", inspect f.signature.output)]

end TableQuery
