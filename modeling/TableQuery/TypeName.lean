import TableQuery.DataType
import TableQuery.SqlError
import TableQuery.Text.Blank
import TableQuery.Text.Casing

/-!
# Names of types on the server

The closed set of names by which the server calls the types of columns, their spellings, and the two
maps between these names and data types. A column type is such a name with or without nulls.
-/

namespace TableQuery

/-- A name of a type on the server. -/
inductive TypeName where
  | bigInt | bool | date | decimal | double | float | int | lineString | multiPolygon | null | point
  | polygon | smallInt | str | time | timestamp | tinyInt
  deriving DecidableEq, Repr

namespace TypeName

/-- The canonical spelling. -/
def text : TypeName → String
  | .bigInt => "BIGINT"
  | .bool => "BOOL"
  | .date => "DATE"
  | .decimal => "DECIMAL"
  | .double => "DOUBLE"
  | .float => "FLOAT"
  | .int => "INT"
  | .lineString => "LINESTRING"
  | .multiPolygon => "MULTIPOLYGON"
  | .null => "NULL"
  | .point => "POINT"
  | .polygon => "POLYGON"
  | .smallInt => "SMALLINT"
  | .str => "STR"
  | .time => "TIME"
  | .timestamp => "TIMESTAMP"
  | .tinyInt => "TINYINT"

/-- The type name with a spelling in capital letters: the canonical ones and those of the SQL
standard. -/
def ofSpelling? : String → Option TypeName
  | "BIGINT" => some .bigInt
  | "BOOL" | "BOOLEAN" => some .bool
  | "DATE" => some .date
  | "DECIMAL" | "NUMERIC" => some .decimal
  | "DOUBLE" => some .double
  | "FLOAT" | "REAL" => some .float
  | "INT" | "INTEGER" => some .int
  | "LINESTRING" => some .lineString
  | "MULTIPOLYGON" => some .multiPolygon
  | "NULL" => some .null
  | "POINT" => some .point
  | "POLYGON" => some .polygon
  | "SMALLINT" => some .smallInt
  | "STR" | "TEXT" | "VARCHAR" | "CHAR" => some .str
  | "TIME" => some .time
  | "TIMESTAMP" => some .timestamp
  | "TINYINT" => some .tinyInt
  | _ => none

/-- Reads a type name in any case, with blanks around it. -/
def parse (name : String) : Except SqlError TypeName :=
  match ofSpelling? (Text.upperAscii (Text.trim name)) with
  | some t => .ok t
  | none => .error (.unsupportedType name)

/-- The data type that a type name stands for. -/
def dataType : TypeName → DataType
  | .bigInt => .int64
  | .bool => .boolean
  | .date => .date
  | .decimal => .decimal DataType.defaultPrecision DataType.defaultScale
  | .double => .float64
  | .float => .float32
  | .int => .int32
  | .lineString => .lineString
  | .multiPolygon => .multiPolygon
  | .null => .null
  | .point => .point
  | .polygon => .polygon
  | .smallInt => .int16
  | .str => .string
  | .time => .time
  | .timestamp => .timestamp
  | .tinyInt => .int8

/-- The type name of a data type, for those that the server knows. -/
def ofDataType? : DataType → Option TypeName
  | .int64 => some .bigInt
  | .boolean => some .bool
  | .date => some .date
  | .decimal _ _ => some .decimal
  | .float64 => some .double
  | .float32 => some .float
  | .int32 => some .int
  | .lineString => some .lineString
  | .multiPolygon => some .multiPolygon
  | .null => some .null
  | .point => some .point
  | .polygon => some .polygon
  | .int16 => some .smallInt
  | .string => some .str
  | .time => some .time
  | .timestamp => some .timestamp
  | .int8 => some .tinyInt
  | .binary | .interval | .array _ => none

end TypeName

namespace DataType

/-- The name of the type on the server, or the error that it has none. -/
def typeName (t : DataType) : Except SqlError TypeName :=
  match TypeName.ofDataType? t with
  | some n => .ok n
  | none => .error (.unsupportedType t.hostName)

/-- The name of the type in SQL text, or the error that it has none. -/
def sqlName (t : DataType) : Except SqlError String :=
  match t.sqlName? with
  | some n => .ok n
  | none => .error (.unsupportedType t.hostName)

end DataType

/-- The type of a column on the server: a type name, with or without nulls. -/
structure ColumnType where
  typeName : TypeName
  nullable : Bool
  deriving DecidableEq, Repr

namespace ColumnType

/-- The column type with a spelled type name. -/
def ofName (name : String) (nullable : Bool) : Except SqlError ColumnType :=
  (TypeName.parse name).map (⟨·, nullable⟩)

def ofDataType (t : DataType) (nullable : Bool) : Except SqlError ColumnType :=
  t.typeName.map (⟨·, nullable⟩)

/-- The text of a column type: the bare name when nulls are excluded. -/
def text (t : ColumnType) : String :=
  if t.nullable then "Nullable(" ++ t.typeName.text ++ ")" else t.typeName.text

/-- What stands between `Nullable(` and the closing parenthesis, if the text has that form. -/
def insideNullable? (s : String) : Option String :=
  let opening := "Nullable(".toList
  let cs := s.toList
  if opening.isPrefixOf cs then
    match (cs.drop opening.length).reverse with
    | ')' :: rest => some (String.ofList rest.reverse)
    | _ => none
  else none

/-- Reads the text of a column type. -/
def parse (spec : String) : Except SqlError ColumnType :=
  let spec := Text.trim spec
  match insideNullable? spec with
  | some inner => ofName inner true
  | none => ofName spec false

def dataType (t : ColumnType) : DataType :=
  t.typeName.dataType

/-- The data type of the column, where a decimal takes a precision that the server has reported. -/
def dataTypeWith (t : ColumnType) (precision scale : Nat) : DataType :=
  match t.typeName with
  | .decimal => if 0 < precision then .decimal precision scale else t.dataType
  | _ => t.dataType

end ColumnType

end TableQuery
