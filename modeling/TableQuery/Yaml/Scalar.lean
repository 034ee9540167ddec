import TableQuery.Number.Reading
import TableQuery.Settings.Tree
import TableQuery.Yaml.Tag

/-!
# Scalars of a document

What a scalar without quotes stands for: by its form, or by the type that a tag names.
-/

namespace TableQuery.Yaml

/-- The words for numbers that are not finite, which no setting can hold. -/
def unboundedWords : List String :=
  [".inf", ".Inf", ".INF", "+.inf", "+.Inf", "+.INF", "-.inf", "-.Inf", "-.INF", ".nan", ".NAN"]

/-- The value of digits in base sixteen or eight, where it is a signed word of 64 bits. -/
def basedNumber? : List Char → Option Int
  | '0' :: 'x' :: ds => digits? 16 ds
  | '0' :: 'o' :: ds => digits? 8 ds
  | _ => none
where
  /-- A non-empty run of digits with an optional sign. -/
  digits? (base : Nat) (ds : List Char) : Option Int :=
    let value? : Option Int :=
      match ds with
      | '-' :: ds => (run? base ds).map fun n => -(n : Int)
      | '+' :: ds => (run? base ds).map Int.ofNat
      | ds => (run? base ds).map Int.ofNat
    value?.filter fun n => decide (Text.int64Min ≤ n ∧ n ≤ Text.int64Max)
  /-- A non-empty run of digits. -/
  run? (base : Nat) (ds : List Char) : Option Nat :=
    if ds.isEmpty then none else Text.digitsIn? base ds

/-- A signed word of 64 bits. -/
def word64? (s : String) : Option Int :=
  Text.readInt? Text.int64Min Text.int64Max s

/-- A whole number in base ten, eight or sixteen. A plus sign may stand in front of another sign. -/
def wholeNumber? (s : String) : Option Int :=
  let behindPlus? :=
    match s.toList with
    | '+' :: cs => word64? (String.ofList cs)
    | _ => none
  ((basedNumber? s.toList).or behindPlus?).or (word64? s)

/-- What a scalar stands for. -/
inductive Meaning where
  | value (v : SettingTree)
  /-- A number that no setting can hold. -/
  | unbounded
  /-- The text is none of the type that is asked for. -/
  | misfit

/-- A floating-point number. -/
def Meaning.ofNumber (s : String) : Meaning :=
  if unboundedWords.contains s then .unbounded
  else
    match Binary64.read? s with
    | some x => .value (.real x)
    | none => .misfit

/-- What a word without a tag stands for. -/
def Meaning.ofWord (s : String) : Meaning :=
  if s == "~" || s == "null" then .value .null
  else if s == "true" then .value (.flag true)
  else if s == "false" then .value (.flag false)
  else
    match wholeNumber? s with
    | some n => .value (.whole n)
    | none =>
      match ofNumber s with
      | .misfit => .value (.text s)
      | number => number

/-- What a word stands for as a value of a named type; types without a meaning of their own are
text. -/
def Meaning.ofTyped (type s : String) : Meaning :=
  match type with
  | "bool" => if s == "true" || s == "false" then .value (.flag (s == "true")) else .misfit
  | "int" => (word64? s).elim .misfit fun n => .value (.whole n)
  | "float" => ofNumber s
  | "null" => if s == "~" || s == "null" then .value .null else .misfit
  | _ => .value (.text s)

/-- What the handles of the types that every document knows stand for. -/
def standardStem : String :=
  "tag:yaml.org,2002:"

/-- What a word with a tag stands for, whose handle has been resolved. -/
def Meaning.ofTagged (tag : Tag) (s : String) : Meaning :=
  if tag.handle == standardStem then ofTyped tag.suffix s else .value (.text s)

end TableQuery.Yaml
