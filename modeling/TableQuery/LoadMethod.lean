import TableQuery.ClientError
import TableQuery.Text.Casing

/-!
# Load methods

How rows are pushed into a table.
-/

namespace TableQuery

/-- How rows are pushed into a table. -/
inductive LoadMethod where
  | rows | columnar | arrow
  /-- The driver chooses. -/
  | infer
  deriving DecidableEq, Repr

namespace LoadMethod

def catalog : List LoadMethod :=
  [.rows, .columnar, .arrow, .infer]

def word : LoadMethod → String
  | .rows => "rows"
  | .columnar => "columnar"
  | .arrow => "arrow"
  | .infer => "infer"

/-- The method when none is given. -/
def default : LoadMethod :=
  .infer

/-- Reads a method, in any case. -/
def parse (s : String) : Except ClientError LoadMethod :=
  let name := Text.lowercase s
  match catalog.find? (·.word == name) with
  | some m => .ok m
  | none => .error (.unknownLoadMethod name)

end LoadMethod

end TableQuery
