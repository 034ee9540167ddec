import TableQuery.Text.Numeral

/-!
# Paths of settings

The name of a setting may be a path: names with dots in between, and numbers in brackets that choose
an item of a list. A name of another form stands for itself.
-/

namespace TableQuery

/-- One step of a path. -/
inductive PathStep where
  /-- The entry of a table with a name. -/
  | entry (name : String)
  /-- The item of a list with a number; negative numbers count from the end. -/
  | item (index : Int)
  deriving DecidableEq, Repr

namespace PathStep

/-- The characters of the names in a path. -/
def isNameChar (c : Char) : Bool :=
  c.isAlphanum || c == '_' || c == '-' || c == ' '

/-- The step to the entry whose name comes first, and what follows it. -/
def named? (cs : List Char) : Option (PathStep × List Char) :=
  let name := cs.takeWhile isNameChar
  if name.isEmpty then none
  else some (.entry (String.ofList name), cs.dropWhile isNameChar)

/-- The blanks that may surround a number. -/
def isSpace (c : Char) : Bool :=
  c == ' ' || c == '\t' || c == '\r' || c == '\n'

/-- A number in front of a closing bracket, and what follows the bracket. -/
def numbered? (cs : List Char) : Option (PathStep × List Char) :=
  let cs := cs.dropWhile isSpace
  let isNumberChar (c : Char) : Bool := c == '-' || c.isDigit
  let number := String.ofList (cs.takeWhile isNumberChar)
  match Text.readInt? Text.int64Min Text.int64Max number with
  | none => none
  | some n =>
    match (cs.dropWhile isNumberChar).dropWhile isSpace with
    | ']' :: rest => some (.item n, rest)
    | _ => none

/-- The steps behind the first one. -/
def further? : Nat → List Char → Option (List PathStep)
  | 0, _ => none
  | _ + 1, [] => some []
  | size + 1, c :: rest =>
    let found := if c == '.' then named? rest else if c == '[' then numbered? rest else none
    match found with
    | some (step, rest) => (further? size rest).map (step :: ·)
    | none => none

/-- The path that a name stands for. -/
def ofName (name : String) : List PathStep :=
  let steps? :=
    match named? name.toList with
    | some (step, rest) => (further? (rest.length + 1) rest).map (step :: ·)
    | none => none
  steps?.getD [.entry name]

end PathStep

end TableQuery
