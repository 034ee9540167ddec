import TableQuery.Text.GlyphTable

/-!
# Inspection

The layout in which values are shown to a developer: `Name(a, b)` for a case with positional parts,
`Name { field: value }` for a record, `[a, b]` for a list, and text between double quotes, with
escapes for quotes, backslashes, controls and every character that has no glyph of its own.
-/

/-! ## Quoted text -/

namespace TableQuery.Text

namespace Glyph

/-- Whether the character is shown as it is. -/
def isPrintable (c : Char) : Bool :=
  if c.toNat < 0x7F then 0x20 ≤ c.toNat else !CharRange.anyCovers unprintable c

/-- Whether the character is a mark that joins the one before it. -/
def isExtending (c : Char) : Bool :=
  0x300 ≤ c.toNat && CharRange.anyCovers extending c

end Glyph

/-- Which characters are escaped besides backslashes and those without a glyph. -/
structure Escaping where
  singleQuote : Bool
  doubleQuote : Bool
  extending : Bool

/-- A code point as an escape: lower-case hexadecimal digits in braces. -/
def codePointEscape (c : Char) : String :=
  "\\u\x7b" ++ String.ofList (Nat.toDigits 16 c.toNat) ++ "\x7d"

/-- One character under the given escaping. -/
def escapeChar (e : Escaping) (c : Char) : String :=
  if c == '\x00' then "\\0"
  else if c == '\t' then "\\t"
  else if c == '\r' then "\\r"
  else if c == '\n' then "\\n"
  else if c == '\\' then "\\\\"
  else if c == '"' && e.doubleQuote then "\\\""
  else if c == '\'' && e.singleQuote then "\\'"
  else if e.extending && Glyph.isExtending c then codePointEscape c
  else if Glyph.isPrintable c then c.toString
  else codePointEscape c

/-- Text between double quotes: single quotes stay, and marks are escaped so that they do not join
the quote. -/
def quoted (s : String) : String :=
  "\"" ++ String.join (s.toList.map (escapeChar ⟨false, true, true⟩)) ++ "\""

/-- Text for use inside a sentence: both quotes are escaped, a mark only where it comes first. -/
def escaped (s : String) : String :=
  match s.toList with
  | [] => ""
  | c :: rest =>
    escapeChar ⟨true, true, true⟩ c ++ String.join (rest.map (escapeChar ⟨true, true, false⟩))

end TableQuery.Text

/-! ## Values -/

namespace TableQuery

/-- Types whose values can be shown to a developer. -/
class Inspect (α : Type) where
  inspect : α → String

export Inspect (inspect)

namespace Inspect

/-- A case with positional parts. -/
def tuple (name : String) (parts : List String) : String :=
  name ++ "(" ++ ", ".intercalate parts ++ ")"

/-- The fields of a record, each after its name. -/
def fieldTexts (fields : List (String × String)) : List String :=
  fields.map fun f => f.1 ++ ": " ++ f.2

/-- A record with named fields. -/
def record (name : String) (fields : List (String × String)) : String :=
  name ++ " \x7b " ++ ", ".intercalate (fieldTexts fields) ++ " \x7d"

/-- A record of which only some fields are shown. -/
def openRecord (name : String) (fields : List (String × String)) : String :=
  name ++ " \x7b " ++ ", ".intercalate (fieldTexts fields ++ [".."]) ++ " \x7d"

/-- A list in brackets. -/
def list (items : List String) : String :=
  "[" ++ ", ".intercalate items ++ "]"

/-- A value that may be missing. -/
def option : Option String → String
  | none => "None"
  | some s => "Some(" ++ s ++ ")"

instance : Inspect String := ⟨Text.quoted⟩

instance : Inspect Nat := ⟨toString⟩

instance : Inspect Int := ⟨toString⟩

instance : Inspect Bool := ⟨fun b => if b then "true" else "false"⟩

instance {α : Type} [Inspect α] : Inspect (List α) := ⟨fun xs => list (xs.map inspect)⟩

instance {α : Type} [Inspect α] : Inspect (Option α) := ⟨fun x => option (x.map inspect)⟩

end Inspect

end TableQuery
