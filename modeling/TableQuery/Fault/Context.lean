import TableQuery.Json.Decode

/-!
# Contexts of faults

What a fault is about, in a form that programs can read: each kind of context has its own fields,
and is written as an object that names the kind under `type`.
-/

namespace TableQuery

/-- What a fault is about. -/
inductive FaultContext where
  | fieldNotFound (field : String) (table : Option String) (available : List String)
  | tableNotFound (table : String) (database : Option String) (available : List String)
  | unsupported (token dialect : String)
  | arity (function expected : String) (actual : Nat)
  | execution (sql : String)
  | connection (host : Option String) (port : Option Nat) (protocol database : Option String)
  | config (filePath field : Option String)
  /-- Any values under any names. -/
  | generic (data : List (String × Json))

namespace FaultContext

/-- The name of the kind of context. -/
def tag : FaultContext → String
  | .fieldNotFound .. => "field_not_found"
  | .tableNotFound .. => "table_not_found"
  | .unsupported .. => "unsupported"
  | .arity .. => "arity"
  | .execution .. => "execution"
  | .connection .. => "connection"
  | .config .. => "config"
  | .generic .. => "generic"

/-- The fields of a context under their names. -/
def members : FaultContext → List (String × Json)
  | .fieldNotFound field table available =>
    [("field", .string field), ("table", Json.optional .string table),
     ("available_fields", Json.strings available)]
  | .tableNotFound table database available =>
    [("table", .string table), ("database", Json.optional .string database),
     ("available_tables", Json.strings available)]
  | .unsupported token dialect => [("token", .string token), ("dialect", .string dialect)]
  | .arity function expected actual =>
    [("function", .string function), ("expected", .string expected), ("actual", Json.nat actual)]
  | .execution sql => [("sql", .string sql)]
  | .connection host port protocol database =>
    [("host", Json.optional .string host), ("port", Json.optional Json.nat port),
     ("protocol", Json.optional .string protocol), ("database", Json.optional .string database)]
  | .config filePath field =>
    [("file_path", Json.optional .string filePath), ("field", Json.optional .string field)]
  | .generic data => data

def toJson (c : FaultContext) : Json :=
  .object (("type", .string c.tag) :: c.members)

open Json

/-- Reads the fields of a kind of context. -/
def ofFields? (tag : String) (body : Json) : Option FaultContext :=
  match tag with
  | "field_not_found" => do
    let fs ← fields? ["field", "table", "available_fields"] true body
    let field ← fs.required? "field" asString?
    let table ← fs.optional? "table" asString?
    let available ← fs.required? "available_fields" asStrings?
    return .fieldNotFound field table available
  | "table_not_found" => do
    let fs ← fields? ["table", "database", "available_tables"] true body
    let table ← fs.required? "table" asString?
    let database ← fs.optional? "database" asString?
    let available ← fs.required? "available_tables" asStrings?
    return .tableNotFound table database available
  | "unsupported" => do
    let fs ← fields? ["token", "dialect"] true body
    let token ← fs.required? "token" asString?
    let dialect ← fs.required? "dialect" asString?
    return .unsupported token dialect
  | "arity" => do
    let fs ← fields? ["function", "expected", "actual"] true body
    let function ← fs.required? "function" asString?
    let expected ← fs.required? "expected" asString?
    let actual ← fs.required? "actual" (asWord? 64)
    return .arity function expected actual
  | "execution" => do
    let fs ← fields? ["sql"] true body
    let sql ← fs.required? "sql" asString?
    return .execution sql
  | "connection" => do
    let fs ← fields? ["host", "port", "protocol", "database"] true body
    let host ← fs.optional? "host" asString?
    let port ← fs.optional? "port" (asWord? 16)
    let protocol ← fs.optional? "protocol" asString?
    let database ← fs.optional? "database" asString?
    return .connection host port protocol database
  | "config" => do
    let fs ← fields? ["file_path", "field"] true body
    let filePath ← fs.optional? "file_path" asString?
    let field ← fs.optional? "field" asString?
    return .config filePath field
  | "generic" =>
    match body with
    | .object members => some (.generic (canonicalMembers [] members))
    | _ => none
  | _ => none

/-- Reads a context: an object with its kind under `type`, or an array with its kind in front. -/
def ofJson? : Json → Option FaultContext
  | .object members =>
    if repeats ["type"] members then none
    else
      match member? members "type" with
      | some (.string tag) => ofFields? tag (.object (members.filter (·.1 != "type")))
      | _ => none
  | .array (.string tag :: items) => ofFields? tag (.array items)
  | _ => none

end FaultContext

end TableQuery
