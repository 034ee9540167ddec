import TableQuery.Identifier.Reserved
import TableQuery.SqlError

/-!
# Identifiers

Names of tables, columns and functions as they are written in SQL text. A name that the parser would
not take as it stands is put between double quotes, and a quote inside is written twice. A name that
is already such a quoted text stays as it is.
-/

namespace TableQuery.Identifier

/-- The characters with every double quote written twice. -/
def doubleQuotes : List Char → List Char
  | [] => []
  | c :: rest => if c = '"' then '"' :: '"' :: doubleQuotes rest else c :: doubleQuotes rest

/-- Whether every double quote is the first or the second of a pair. -/
def quotesPaired : List Char → Bool
  | [] => true
  | '"' :: '"' :: rest => quotesPaired rest
  | c :: rest => c != '"' && quotesPaired rest

/-- Whether the characters are a quoted identifier: between double quotes, with quotes inside in
pairs. -/
def isQuotedChars : List Char → Bool
  | '"' :: rest =>
    match rest.reverse with
    | '"' :: inner => quotesPaired inner.reverse
    | _ => false
  | _ => false

/-- Whether the name is already a quoted identifier. -/
def isQuoted (name : String) : Bool :=
  isQuotedChars name.toList

/-- Letters, digits and underscores of ASCII. -/
def isWordChar (c : Char) : Bool :=
  c.isAlphanum || c == '_'

/-- Whether the parser would not take the name bare. -/
def needsQuotes (name : String) : Bool :=
  isReserved name || (name.toList.head?.any Char.isDigit) || !name.toList.all isWordChar

/-- The name as it is written, in double quotes where it needs them. -/
def quote (name : String) : String :=
  if isQuoted name || !needsQuotes name then name
  else String.ofList ('"' :: (doubleQuotes name.toList ++ ['"']))

/-- The greatest length of a name, in bytes. -/
def maxLength : Nat := 128

/-- Checks that a name is not empty, not too long and free of the null character. -/
def validate (name : String) : Except SqlError Unit :=
  if name.isEmpty then .error (.invalidIdentifier "empty")
  else if maxLength < name.utf8ByteSize then
    .error (.invalidIdentifier ("too long: " ++ toString name.utf8ByteSize))
  else if name.toList.contains '\x00' then
    .error (.invalidIdentifier ("forbidden characters in: " ++ Text.escaped name))
  else .ok ()

/-- The name as it is written, if it is valid. -/
def safe (name : String) : Except SqlError String :=
  (validate name).map fun _ => quote name

end TableQuery.Identifier
