import TableQuery.DataType
import TableQuery.TypeName

/-!
# Schemas

An ordered list of named, typed columns.
-/

namespace TableQuery

/-- A named column with its type. -/
structure Field where
  name : String
  dataType : DataType
  nullable : Bool
  deriving DecidableEq, Repr

/-- The columns of a table or a result, in order. -/
structure Schema where
  fields : List Field
  deriving DecidableEq, Repr

namespace Schema

/-- The names of the columns, in order. -/
def names (s : Schema) : List String :=
  s.fields.map (·.name)

/-- The first column with a name. -/
def field? (s : Schema) (name : String) : Option Field :=
  s.fields.find? (·.name == name)

/-- The number of columns. -/
def size (s : Schema) : Nat :=
  s.fields.length

end Schema

def ColumnType.field (t : ColumnType) (name : String) : Field :=
  ⟨name, t.dataType, t.nullable⟩

end TableQuery
