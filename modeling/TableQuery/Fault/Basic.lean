import TableQuery.Fault.Code
import TableQuery.Fault.Context
import TableQuery.Json.Reader
import TableQuery.Json.Writer

/-!
# Faults

What a caller is told when something fails: a code, a message, and where there is more to say a
context, a hint and a number by which the matter can be traced. A fault is written to the data
format and read back from it.
-/

namespace TableQuery

/-- A coded error. -/
structure Fault where
  code : FaultCode
  message : String
  context : Option FaultContext
  hint : Option String
  traceId : Option String

namespace Fault

/-- A fault with a code and a message only. -/
def new (code : FaultCode) (message : String) : Fault :=
  ⟨code, message, none, none, none⟩

def withContext (f : Fault) (c : FaultContext) : Fault :=
  { f with context := some c }

def withHint (f : Fault) (hint : String) : Fault :=
  { f with hint := some hint }

def withHint? (f : Fault) (hint : Option String) : Fault :=
  match hint with
  | some h => f.withHint h
  | none => f

/-- The fault with a number for tracing. -/
def withTraceId (f : Fault) (id : String) : Fault :=
  { f with traceId := some id }

/-- The fault as it is shown to people. -/
def text (f : Fault) : String :=
  "[" ++ f.code.text ++ "] " ++ f.message
    ++ (match f.hint with
        | some h => " (Hint: " ++ h ++ ")"
        | none => "")

/-- A member that is left out where there is no value. -/
def presentMember (name : String) : Option Json → List (String × Json)
  | some j => [(name, j)]
  | none => []

def toJson (f : Fault) : Json :=
  .object
    ([("code", .string f.code.text), ("message", .string f.message)]
      ++ presentMember "context" (f.context.map FaultContext.toJson)
      ++ presentMember "hint" (f.hint.map .string)
      ++ presentMember "trace_id" (f.traceId.map .string))

/-- The names of the fields of a fault, in order. -/
def fieldNames : List String :=
  ["code", "message", "context", "hint", "trace_id"]

open Json in
/-- Reads a fault from a value. -/
def ofJson? (j : Json) : Option Fault := do
  let fs ← fields? fieldNames true j
  let code ← fs.required? "code" asString?
  let code ← (FaultCode.parse code).toOption
  let message ← fs.required? "message" asString?
  let context ← fs.optional? "context" FaultContext.ofJson?
  let hint ← fs.optional? "hint" asString?
  let traceId ← fs.optional? "trace_id" asString?
  return ⟨code, message, context, hint, traceId⟩

/-- Reads a fault from its text, where members that are no fields of a fault do not count. -/
def read? (text : String) : Option Fault :=
  (Json.readKnown? fieldNames text).bind ofJson?

/-- The fault of an input or output operation. -/
def ofInput (message : String) : Fault :=
  new .driverInternal message

/-- The code of the fault that a text is no document, if it is none. -/
def documentFault? (text : String) : Option FaultCode :=
  match Json.read? text with
  | some _ => none
  | none => some .serializationFailed

end Fault

end TableQuery
