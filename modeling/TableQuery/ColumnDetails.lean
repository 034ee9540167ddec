import TableQuery.Schema

/-!
# Column details

What the server reports about a column, and the schema that follows from it.
-/

namespace TableQuery

/-- A column as the server describes it. -/
structure ColumnDetails where
  name : String
  typeName : String
  nullable : Bool
  precision : Nat
  scale : Nat
  compParam : Nat
  encoding : String
  deriving DecidableEq, Repr

namespace ColumnDetails

def columnType (c : ColumnDetails) : Except SqlError ColumnType :=
  ColumnType.ofName c.typeName c.nullable

/-- The data type, with the reported precision of a decimal. -/
def dataType (c : ColumnDetails) : Except SqlError DataType :=
  c.columnType.map fun t => t.dataTypeWith c.precision c.scale

/-- The column of a schema. -/
def field (c : ColumnDetails) : Except SqlError Field :=
  c.dataType.map fun t => ⟨c.name, t, c.nullable⟩

end ColumnDetails

/-- The schema of reported columns. The first column without a known type is the error. -/
def Schema.ofDetails (cs : List ColumnDetails) : Except SqlError Schema :=
  (cs.mapM ColumnDetails.field).map Schema.mk

end TableQuery
