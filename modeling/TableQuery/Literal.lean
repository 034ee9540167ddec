import TableQuery.Calendar
import TableQuery.Number.Shortest
import TableQuery.Operation

/-!
# Literals

Constant values in expressions.
-/

namespace TableQuery

/-- A constant value. -/
inductive Literal where
  | null
  | boolean (value : Bool)
  | int (value : Int)
  | float (value : Binary64)
  | string (value : String)
  | date (value : CivilDate)
  | time (value : TimeOfDay)
  | timestamp (value : Timestamp)
  | interval (value : Int) (unit : TemporalUnit)
  | geometry (wkt : String) (srid : Option Int)
  deriving DecidableEq

namespace Literal

/-- Equality of values: floating-point numbers are compared as numbers, so not-a-number equals
nothing. -/
def same : Literal → Literal → Bool
  | .float x, .float y => x.same y
  | x, y => x == y

/-- The layout for developers. -/
def inspected : Literal → String
  | .null => "Null"
  | .boolean b => Inspect.tuple "Boolean" [inspect b]
  | .int n => Inspect.tuple "Int" [inspect n]
  | .float x => Inspect.tuple "Float" [x.text Binary64.sqlLayout]
  | .string s => Inspect.tuple "String" [inspect s]
  | .date d => Inspect.tuple "Date" [inspect d]
  | .time t => Inspect.tuple "Time" [inspect t]
  | .timestamp t => Inspect.tuple "Timestamp" [inspect t]
  | .interval n unit => Inspect.record "Interval" [("value", inspect n), ("unit", unit.name)]
  | .geometry wkt srid => Inspect.record "Geo" [("wkt", inspect wkt), ("srid", inspect srid)]

end Literal

instance : Inspect Literal := ⟨Literal.inspected⟩

end TableQuery
