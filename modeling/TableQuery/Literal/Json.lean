import TableQuery.Json.Decode
import TableQuery.Literal
import TableQuery.Number.Reading

/-!
# Literals in JSON

A literal is `null`, or an object with one member that is named for its kind. Floating-point numbers
are written as texts, dates and times as arrays of their parts.
-/

namespace TableQuery.Literal

/-- The natural number that a value is. -/
def natOf? (j : Json) : Option Nat :=
  Json.asWord? 64 j

/-- Reads a date from its year, month and day. -/
def dateOf? (y m d : Json) : Option CivilDate := do
  CivilDate.ofParts? (← Json.asInt? Text.int64Min Text.int64Max y) (← natOf? m) (← natOf? d)

/-- Reads a time from its hour, minute, second and nanoseconds. -/
def timeOf? (h m s n : Json) : Option TimeOfDay := do
  TimeOfDay.ofParts? (← natOf? h) (← natOf? m) (← natOf? s) (← natOf? n)

/-- Reads a literal of a kind. -/
def ofMember? : String → Json → Option Literal
  | "bool", .bool b => some (.boolean b)
  | "int", j => (Json.asInt? Text.int64Min Text.int64Max j).map .int
  | "float", .string s => (Binary64.read? s).map .float
  | "str", .string s => some (.string s)
  | "date", .array [y, m, d] => (dateOf? y m d).map .date
  | "time", .array [h, m, s, n] => (timeOf? h m s n).map .time
  | "timestamp", .array [y, mo, d, h, m, s, n] => do
    return .timestamp ⟨← dateOf? y mo d, ← timeOf? h m s n⟩
  | "interval", .array [n, .string unit] => do
    return .interval (← Json.asInt? Text.int64Min Text.int64Max n)
      (← TemporalUnit.ofKeyword? unit)
  | "geo", .array [.string wkt, srid] =>
    (Json.asOptional? (Json.asInt? Text.int64Min Text.int64Max) srid).map (.geometry wkt)
  | _, _ => none

/-- Reads a literal. -/
def ofJson? : Json → Option Literal
  | .null => some .null
  | .object [(kind, value)] => ofMember? kind value
  | _ => none

end TableQuery.Literal
