import TableQuery.ClientError
import TableQuery.Sql.Statement
import TableQuery.Text.DigitTable

/-!
# Statements that define tables

The text of the statements that create, change and drop tables and views. Every name goes through
the quoting of identifiers, and the encoding of a column is restricted to a small grammar.
-/

namespace TableQuery

/-- What can be chosen about a new table. -/
structure TableOptions where
  /-- Rows in a fragment; the default depends on how queries run. -/
  fragmentSize : Option Nat
  /-- The greatest number of rows. -/
  maxRows : Option Nat
  temporary : Bool
  deriving DecidableEq, Repr

/-- A column to be added to a table. -/
structure ColumnSpec where
  name : String
  dataType : DataType
  nullable : Bool
  default : Option Literal
  encoding : Option String
  deriving DecidableEq

namespace Ddl

/-- Rows in a fragment where queries run on a graphics card. -/
def gpuFragmentSize : Nat := 32000000

/-- Rows in a fragment where queries run on the processor. -/
def cpuFragmentSize : Nat := 5000000

/-- The text of a name in a statement. -/
def ident (name : String) : Except ClientError String :=
  (Identifier.safe name).mapError .compilation

/-- The text of a type in a statement. -/
def typeText (t : DataType) : Except ClientError String :=
  t.sqlName.mapError fun _ => .unsupportedType t.hostName

/-- Whether the characters are digits between parentheses. -/
def isParenthesisedNumber : List Char → Bool
  | '(' :: rest =>
    let digits := rest.takeWhile Text.isDecimalDigit
    !digits.isEmpty && rest.dropWhile Text.isDecimalDigit == [')']
  | _ => false

/-- Whether the text is an encoding: letters, and possibly a number in parentheses. -/
def isEncoding (s : String) : Bool :=
  let letters := s.toList.takeWhile Char.isAlpha
  let rest := s.toList.dropWhile Char.isAlpha
  !letters.isEmpty && (rest.isEmpty || isParenthesisedNumber rest)

/-- The text of an encoding in a statement. -/
def encodingText (s : String) : Except ClientError String :=
  if isEncoding s then .ok (Text.upperAscii s) else .error (.invalidEncoding s)

/-- A column of a new table. -/
def columnLine (f : Field) : Except ClientError String := do
  let type ← typeText f.dataType
  let name ← ident f.name
  return "  " ++ name ++ " " ++ type ++ (if f.nullable then "" else " NOT NULL")

/-- The options behind the columns of a new table. -/
def withClause (options : TableOptions) (gpu : Bool) : String :=
  let size := options.fragmentSize.getD (if gpu then gpuFragmentSize else cpuFragmentSize)
  let rows := (options.maxRows.map fun n => "MAX_ROWS = " ++ toString n).toList
  ", ".intercalate (rows ++ ["FRAGMENT_SIZE = " ++ toString size])

/-- Creates an empty table. -/
def createTable (name : String) (schema : Schema) (options : TableOptions) (gpu : Bool) :
    Except ClientError String := do
  let columns ← schema.fields.mapM columnLine
  let name ← ident name
  return "CREATE " ++ (if options.temporary then "TEMPORARY " else "") ++ "TABLE " ++ name ++ " (\n"
    ++ ",\n".intercalate columns ++ "\n) WITH (" ++ withClause options gpu ++ ")"

/-- Creates a table from the result of a query. -/
def createTableAs (name select : String) : Except ClientError String := do
  return "CREATE TABLE " ++ (← ident name) ++ " AS (\n" ++ select ++ "\n)"

/-- Creates a view of a query. -/
def createView (name select : String) : Except ClientError String := do
  return "CREATE VIEW " ++ (← ident name) ++ " AS\n" ++ select

/-- Drops something of a kind; with `force` it need not be there. -/
def drop (kind name : String) (force : Bool) : Except ClientError String := do
  return "DROP " ++ kind ++ " " ++ (if force then "IF EXISTS " else "") ++ (← ident name)

def dropTable (name : String) (force : Bool) : Except ClientError String :=
  drop "TABLE" name force

def dropView (name : String) (force : Bool) : Except ClientError String :=
  drop "VIEW" name force

/-- Removes all rows of a table. -/
def truncateTable (name : String) : Except ClientError String := do
  return "TRUNCATE TABLE " ++ (← ident name)

/-- Gives a table another name. -/
def renameTable (name newName : String) : Except ClientError String := do
  let name ← ident name
  let newName ← ident newName
  return "ALTER TABLE " ++ name ++ " RENAME TO " ++ newName

/-- The default of a column to be added. -/
def defaultText (d : Dialect) : Option Literal → Except ClientError String
  | none => .ok ""
  | some value => do
    let text ← (d.literalText value).mapError ClientError.compilation
    return " DEFAULT " ++ text

/-- The encoding of a column to be added. -/
def encodingClause : Option String → Except ClientError String
  | none => .ok ""
  | some encoding => do return " ENCODING " ++ (← encodingText encoding)

/-- A column to be added. -/
def columnDefinition (d : Dialect) (c : ColumnSpec) : Except ClientError String := do
  let name ← ident c.name
  let type ← typeText c.dataType
  let default ← defaultText d c.default
  let encoding ← encodingClause c.encoding
  return name ++ " " ++ type ++ (if c.nullable then "" else " NOT NULL") ++ default ++ encoding

def addColumns (d : Dialect) (table : String) (columns : List ColumnSpec) :
    Except ClientError String := do
  if columns.isEmpty then throw .noColumnsToAdd
  let definitions ← columns.mapM (columnDefinition d)
  let table ← ident table
  return "ALTER TABLE " ++ table ++ " ADD (" ++ ", ".intercalate definitions ++ ")"

def dropColumns (table : String) (names : List String) : Except ClientError String := do
  if names.isEmpty then throw .noColumnsToDrop
  let names ← names.mapM ident
  let table ← ident table
  return "ALTER TABLE " ++ table ++ " " ++ ", ".intercalate (names.map ("DROP COLUMN " ++ ·))

end Ddl

end TableQuery
