import TableQuery.Json.Basic
import TableQuery.Number.Word

/-!
# Decoding JSON

Reading typed values out of JSON values. A record is written as an object, whose members may come in
any order and of which unknown ones do not count, or as an array of its fields in order. A record
that names a known field twice is refused.
-/

namespace TableQuery.Json

/-- The text of a value that is one. -/
def asString? : Json → Option String
  | .string s => some s
  | _ => none

/-- The truth value of a value that is one. -/
def asBool? : Json → Option Bool
  | .bool b => some b
  | _ => none

/-- The whole number between two bounds that a value is. -/
def asInt? (lo hi : Int) : Json → Option Int
  | .number (.whole n) => if lo ≤ n ∧ n ≤ hi then some n else none
  | _ => none

/-- The natural number of some bits that a value is. -/
def asWord? (bits : Nat) (j : Json) : Option Nat :=
  (asInt? 0 (Word.greatest bits) j).map Int.toNat

/-- The items of a value that is an array. -/
def asArray? : Json → Option (List Json)
  | .array items => some items
  | _ => none

/-- The texts of a value that is an array of texts. -/
def asStrings? (j : Json) : Option (List String) :=
  (asArray? j).bind fun items => items.mapM asString?

/-- A value that may be `null`. -/
def asOptional? {α : Type} (decode : Json → Option α) : Json → Option (Option α)
  | .null => some none
  | j => (decode j).map some

/-- The fields that a record was written with. -/
abbrev Fields : Type := List (String × Json)

/-- Whether a field is named twice. -/
def repeats (names : List String) (members : Fields) : Bool :=
  names.any fun name => decide (1 < (members.filter (·.1 == name)).length)

/-- The fields of a record in either form. Where `complete` holds, an array must have all fields. -/
def fields? (names : List String) (complete : Bool) : Json → Option Fields
  | .object members => if repeats names members then none else some members
  | .array items =>
    if names.length < items.length || (complete && items.length != names.length) then none
    else some (names.zip items)
  | _ => none

namespace Fields

def required? {α : Type} (fields : Fields) (name : String) (decode : Json → Option α) : Option α :=
  (member? fields name).bind decode

/-- A field with a value for when it is missing. -/
def withDefault? {α : Type} (fields : Fields) (name : String) (default : α)
    (decode : Json → Option α) : Option α :=
  match member? fields name with
  | none => some default
  | some j => decode j

/-- A field that may be missing or `null`. -/
def optional? {α : Type} (fields : Fields) (name : String) (decode : Json → Option α) :
    Option (Option α) :=
  fields.withDefault? name none (asOptional? decode)

end Fields

end TableQuery.Json
