import TableQuery.Literal
import TableQuery.SqlError

/-!
# The SQL text of literals

Every literal but the floating-point values that are no numbers has a text, and texts of strings are
closed by the quote that ends them: a quote inside is written twice.
-/

namespace TableQuery

/-- The characters with every single quote written twice. -/
def doubleApostrophes : List Char → List Char
  | [] => []
  | c :: rest =>
    if c = '\'' then '\'' :: '\'' :: doubleApostrophes rest else c :: doubleApostrophes rest

/-- A text between single quotes. -/
def quoteString (s : String) : String :=
  String.ofList ('\'' :: (doubleApostrophes s.toList ++ ['\'']))

namespace Literal

/-- The SQL text of a literal. -/
def sql : Literal → Except SqlError String
  | .null => .ok "NULL"
  | .boolean true => .ok "TRUE"
  | .boolean false => .ok "FALSE"
  | .int n => .ok (toString n)
  | .float x =>
    let text := x.text Binary64.sqlLayout
    if x.isFinite then .ok text
    else .error (.unsupportedExpr ("non-finite float literal " ++ text))
  | .string s => .ok (quoteString s)
  | .date d => .ok ("DATE '" ++ d.text ++ "'")
  | .time t => .ok ("TIME '" ++ t.text ++ "'")
  | .timestamp t => .ok ("TIMESTAMP(0) '" ++ t.text ++ "'")
  | .interval n unit => .ok ("INTERVAL '" ++ toString n ++ "' " ++ unit.keyword)
  | .geometry wkt none => .ok ("ST_GeomFromText(" ++ quoteString wkt ++ ")")
  | .geometry wkt (some srid) =>
    .ok ("ST_GeomFromText(" ++ quoteString wkt ++ ", " ++ toString srid ++ ")")

end Literal

end TableQuery
