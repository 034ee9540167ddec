import TableQuery.Number.Binary64

/-!
# JSON values

Values of the data format. Numbers are whole where they are written so and fit into a word of 64
bits, and binary floating-point numbers otherwise. Objects keep their members in order, and may hold
a name twice until `canonical` settles which of them counts.
-/

namespace TableQuery

/-- A number of the data format. -/
inductive JsonNumber where
  /-- A whole number of at most 64 bits, or a negative one of 63. -/
  | whole (n : Int)
  | float (x : Binary64)
  deriving DecidableEq, Repr

/-- A value of the data format. -/
inductive Json where
  | null
  | bool (value : Bool)
  | number (value : JsonNumber)
  | string (value : String)
  | array (items : List Json)
  | object (members : List (String × Json))

namespace Json

/-- A whole number as a value. -/
def int (n : Int) : Json :=
  .number (.whole n)

/-- A natural number as a value. -/
def nat (n : Nat) : Json :=
  .number (.whole n)

/-- A list of texts as a value. -/
def strings (xs : List String) : Json :=
  .array (xs.map .string)

/-- A value, or `null` where there is none. -/
def optional {α : Type} (f : α → Json) : Option α → Json
  | some x => f x
  | none => .null

/-- Puts a member in its place among members with ascending names, in place of one with the same
name. -/
def insertMember (name : String) (value : Json) : List (String × Json) → List (String × Json)
  | [] => [(name, value)]
  | (other, v) :: rest =>
    if name < other then (name, value) :: (other, v) :: rest
    else if name = other then (name, value) :: rest
    else (other, v) :: insertMember name value rest

mutual

/-- The value with the members of every object in ascending order of their names, where the last of
several members with one name counts. -/
def canonical : Json → Json
  | .null => .null
  | .bool b => .bool b
  | .number n => .number n
  | .string s => .string s
  | .array items => .array (canonicalItems items)
  | .object members => .object (canonicalMembers [] members)

/-- The items in canonical form. -/
def canonicalItems : List Json → List Json
  | [] => []
  | x :: xs => x.canonical :: canonicalItems xs

/-- The members in canonical form, put among those that are already in order. -/
def canonicalMembers (done : List (String × Json)) : List (String × Json) → List (String × Json)
  | [] => done
  | (name, value) :: rest => canonicalMembers (insertMember name value.canonical done) rest

end

/-- The first member with a name. -/
def member? (members : List (String × Json)) (name : String) : Option Json :=
  (members.find? (·.1 == name)).map (·.2)

end Json

end TableQuery
