import TableQuery.Json.Decode
import TableQuery.Schema

/-!
# Data types and schemas in JSON

A type is written as its name, or as an object with one member when it has parts.
-/

namespace TableQuery

namespace DataType

/-- The types without parts, under their names. -/
def named : List (String × DataType) :=
  [("boolean", .boolean), ("int8", .int8), ("int16", .int16), ("int32", .int32), ("int64", .int64),
   ("float32", .float32), ("float64", .float64), ("string", .string), ("date", .date),
   ("time", .time), ("timestamp", .timestamp), ("point", .point), ("line_string", .lineString),
   ("polygon", .polygon), ("multi_polygon", .multiPolygon), ("null", .null), ("binary", .binary),
   ("interval", .interval)]

def toJson : DataType → Json
  | .decimal p s =>
    .object [("decimal", .object [("precision", Json.nat p), ("scale", Json.nat s)])]
  | .array t => .object [("array", t.toJson)]
  | t =>
    match named.find? (·.2 == t) with
    | some (name, _) => .string name
    | none => .null

/-- The type without parts that has a name. -/
def ofName? (name : String) : Option DataType :=
  (named.find? (·.1 == name)).map (·.2)

/-- Reads the parts of a decimal from the members of an object. -/
def decimalOfMembers? (members : List (String × Json)) : Option DataType := do
  let fs ← Json.fields? ["precision", "scale"] true (.object members)
  let precision ← fs.required? "precision" (Json.asWord? 8)
  let scale ← fs.required? "scale" (Json.asWord? 8)
  return .decimal precision scale

/-- Reads a type from a value. A name without parts may also be a member with `null`. -/
def ofJson? : Json → Option DataType
  | .string name => ofName? name
  | .object [("array", t)] => (ofJson? t).map .array
  | .object [("decimal", .object members)] => decimalOfMembers? members
  | .object [(name, .null)] => ofName? name
  | _ => none

end DataType

namespace Field

/-- A column as a value. -/
def toJson (f : Field) : Json :=
  .object
    [("name", .string f.name), ("data_type", f.dataType.toJson), ("nullable", .bool f.nullable)]

end Field

namespace Schema

def toJson (s : Schema) : Json :=
  .object [("fields", .array (s.fields.map Field.toJson))]

end Schema

end TableQuery
