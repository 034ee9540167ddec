import TableQuery.Text.Inspect

/-!
# Data types

The types of values that tables hold and expressions have, with the name by which a host program
knows each of them.
-/

namespace TableQuery

/-- The type of a value. -/
inductive DataType where
  | boolean
  | int8
  | int16
  | int32
  | int64
  | float32
  | float64
  | decimal (precision scale : Nat)
  | string
  | date
  | time
  | timestamp
  | point
  | lineString
  | polygon
  | multiPolygon
  | null
  | binary
  | interval
  | array (element : DataType)
  deriving DecidableEq, Repr

namespace DataType

/-- The precision of a decimal when none is given. -/
def defaultPrecision : Nat := 18

/-- The scale of a decimal when none is given. -/
def defaultScale : Nat := 9

/-- The name of a type in host programs and in signatures of functions. -/
def hostName : DataType → String
  | .boolean => "boolean"
  | .int8 => "int8"
  | .int16 => "int16"
  | .int32 => "int32"
  | .int64 => "int64"
  | .float32 => "float32"
  | .float64 => "float64"
  | .decimal p s => "decimal(" ++ toString p ++ ", " ++ toString s ++ ")"
  | .string => "string"
  | .date => "date"
  | .time => "time"
  | .timestamp => "timestamp"
  | .point => "point"
  | .lineString => "linestring"
  | .polygon => "polygon"
  | .multiPolygon => "multipolygon"
  | .null => "null"
  | .binary => "binary"
  | .interval => "interval"
  | .array t => "array<" ++ t.hostName ++ ">"

/-- The name of a type in `CAST` and in table definitions, for the types that a table can hold. -/
def sqlName? : DataType → Option String
  | .boolean => some "BOOLEAN"
  | .int8 => some "TINYINT"
  | .int16 => some "SMALLINT"
  | .int32 => some "INT"
  | .int64 => some "BIGINT"
  | .float32 => some "FLOAT"
  | .float64 => some "DOUBLE"
  | .decimal p s => some ("DECIMAL(" ++ toString p ++ ", " ++ toString s ++ ")")
  | .string => some "TEXT"
  | .date => some "DATE"
  | .time => some "TIME"
  | .timestamp => some "TIMESTAMP"
  | .point => some "POINT"
  | .lineString => some "LINESTRING"
  | .polygon => some "POLYGON"
  | .multiPolygon => some "MULTIPOLYGON"
  | .null | .binary | .interval | .array _ => none

/-- The layout for developers. -/
def inspected : DataType → String
  | .boolean => "Boolean"
  | .int8 => "Int8"
  | .int16 => "Int16"
  | .int32 => "Int32"
  | .int64 => "Int64"
  | .float32 => "Float32"
  | .float64 => "Float64"
  | .decimal p s => Inspect.record "Decimal" [("precision", toString p), ("scale", toString s)]
  | .string => "String"
  | .date => "Date"
  | .time => "Time"
  | .timestamp => "Timestamp"
  | .point => "Point"
  | .lineString => "LineString"
  | .polygon => "Polygon"
  | .multiPolygon => "MultiPolygon"
  | .null => "Null"
  | .binary => "Binary"
  | .interval => "Interval"
  | .array t => Inspect.tuple "Array" [t.inspected]

end DataType

instance : Inspect DataType := ⟨DataType.inspected⟩

end TableQuery
