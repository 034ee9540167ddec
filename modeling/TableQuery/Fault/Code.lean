import TableQuery.Text.Numeral

/-!
# Codes of faults

Every fault has a number that stays the same from version to version. The thousands tell what kind
of fault it is.
-/

namespace TableQuery

/-- The code of a fault. -/
inductive FaultCode where
  /-- Could not open a session. -/
  | connectionFailed
  /-- Network connection timeout. -/
  | connectionTimeout
  /-- Session closed or expired. -/
  | sessionClosed
  /-- SQL syntax error. -/
  | syntaxError
  /-- Field/column not found. -/
  | fieldNotFound
  /-- Table not found. -/
  | tableNotFound
  /-- Ambiguous column reference. -/
  | ambiguousColumn
  /-- Type has no dialect mapping. -/
  | unsupportedType
  /-- Operator has no registry entry. -/
  | unsupportedOperator
  /-- Statement shape rejected by the backend. -/
  | unsupportedStatement
  /-- Non-equality join predicate. -/
  | nonEquiJoin
  /-- Function called with the wrong number of arguments. -/
  | arityMismatch
  /-- Statement failed on the server. -/
  | executionFailed
  /-- Configuration file could not be read or parsed. -/
  | invalidConfig
  /-- Missing required connection parameter. -/
  | missingRequiredField
  /-- Incompatible execution options. -/
  | invalidExecutionType
  /-- Driver reported an internal failure. -/
  | driverInternal
  /-- Serialization/deserialization failed. -/
  | serializationFailed
  /-- Unexpected internal state. -/
  | internalState
  /-- Feature not implemented. -/
  | notImplemented
  /-- Remote UDF compilation failed. -/
  | remoteCompilationFailed
  /-- Unknown/unclassified error. -/
  | unknown
  deriving DecidableEq, Repr

/-- The kinds of faults. -/
inductive FaultCategory where
  | connection | query | config | internal
  deriving DecidableEq, Repr

/-- The name of a kind of fault. -/
def FaultCategory.name : FaultCategory → String
  | .connection => "Connection"
  | .query => "Query"
  | .config => "Config"
  | .internal => "Internal"

namespace FaultCode

/-- All codes in ascending order. -/
def catalog : List FaultCode :=
  [.connectionFailed, .connectionTimeout, .sessionClosed, .syntaxError, .fieldNotFound,
   .tableNotFound, .ambiguousColumn, .unsupportedType, .unsupportedOperator,
   .unsupportedStatement, .nonEquiJoin, .arityMismatch, .executionFailed, .invalidConfig,
   .missingRequiredField, .invalidExecutionType, .driverInternal, .serializationFailed,
   .internalState, .notImplemented, .remoteCompilationFailed, .unknown]

def number : FaultCode → Nat
  | .connectionFailed => 1001
  | .connectionTimeout => 1002
  | .sessionClosed => 1003
  | .syntaxError => 2001
  | .fieldNotFound => 2002
  | .tableNotFound => 2003
  | .ambiguousColumn => 2004
  | .unsupportedType => 2005
  | .unsupportedOperator => 2006
  | .unsupportedStatement => 2007
  | .nonEquiJoin => 2008
  | .arityMismatch => 2009
  | .executionFailed => 2010
  | .invalidConfig => 3001
  | .missingRequiredField => 3002
  | .invalidExecutionType => 3003
  | .driverInternal => 5001
  | .serializationFailed => 5002
  | .internalState => 5003
  | .notImplemented => 5004
  | .remoteCompilationFailed => 5005
  | .unknown => 9999

def name : FaultCode → String
  | .connectionFailed => "ConnectionFailed"
  | .connectionTimeout => "ConnectionTimeout"
  | .sessionClosed => "SessionClosed"
  | .syntaxError => "SyntaxError"
  | .fieldNotFound => "FieldNotFound"
  | .tableNotFound => "TableNotFound"
  | .ambiguousColumn => "AmbiguousColumn"
  | .unsupportedType => "UnsupportedType"
  | .unsupportedOperator => "UnsupportedOperator"
  | .unsupportedStatement => "UnsupportedStatement"
  | .nonEquiJoin => "NonEquiJoin"
  | .arityMismatch => "ArityMismatch"
  | .executionFailed => "ExecutionFailed"
  | .invalidConfig => "InvalidConfig"
  | .missingRequiredField => "MissingRequiredField"
  | .invalidExecutionType => "InvalidExecutionType"
  | .driverInternal => "DriverInternal"
  | .serializationFailed => "SerializationFailed"
  | .internalState => "InternalPanic"
  | .notImplemented => "NotImplemented"
  | .remoteCompilationFailed => "RemoteCompilationFailed"
  | .unknown => "Unknown"

/-- What stands in front of the number in the text of a code. -/
def textStart : String := "HEAVYAI-"

/-- The text of a code: the number with at least four digits. -/
def text (c : FaultCode) : String :=
  textStart ++ Text.padded 4 c.number

/-- The kind of fault, by the thousands of the number. -/
def category (c : FaultCode) : FaultCategory :=
  match c.number / 1000 with
  | 1 => .connection
  | 2 => .query
  | 3 => .config
  | _ => .internal

def ofNumber? (n : Nat) : Option FaultCode :=
  catalog.find? (·.number == n)

/-- Why a text is no code. -/
inductive ParseError where
  | invalidFormat
  | unknownCode
  | unknownNumber (n : Nat)
  deriving DecidableEq, Repr

/-- The text of such an error. -/
def ParseError.message : ParseError → String
  | .invalidFormat => "Invalid format"
  | .unknownCode => "Unknown code"
  | .unknownNumber n => "Unknown error code: " ++ toString n

/-- The code with a number, or the error that there is none. -/
def ofNumber (n : Nat) : Except ParseError FaultCode :=
  match ofNumber? n with
  | some c => .ok c
  | none => .error (.unknownNumber n)

/-- Reads the text of a code. The number may have a plus sign and zeros in front; it is a word of 16
bits. -/
def parse (s : String) : Except ParseError FaultCode :=
  let start := textStart.toList
  if start.isPrefixOf s.toList then
    match Text.readNat? 65535 (String.ofList (s.toList.drop start.length)) with
    | none => .error .invalidFormat
    | some n =>
      match ofNumber? n with
      | some c => .ok c
      | none => .error .unknownCode
  else .error .invalidFormat

end FaultCode

end TableQuery
