import TableQuery.Number.Binary64
import TableQuery.Text.Numeral

/-!
# Reading floating-point numbers

The written forms of a floating-point number: an optional sign, then `nan`, `inf` or `infinity` in
any case, or digits with an optional point and an optional power of ten. A point needs a digit on
one side only.
-/

namespace TableQuery.Binary64

open TableQuery.Text

/-- The power of ten after the digits: nothing, or `e` with a signed run of digits. -/
def readPower? : List Char → Option Int
  | [] => some 0
  | c :: rest =>
    if c == 'e' || c == 'E' then
      match rest with
      | '-' :: ds => (digitsValue? ds).map fun n => -(n : Int)
      | '+' :: ds => (digitsValue? ds).map Int.ofNat
      | ds => (digitsValue? ds).map Int.ofNat
    else none

/-- Splits off the digits before and after an optional point. -/
def splitFraction (cs : List Char) : List Char × List Char × List Char :=
  let whole := cs.takeWhile Char.isDigit
  match cs.dropWhile Char.isDigit with
  | '.' :: rest => (whole, rest.takeWhile Char.isDigit, rest.dropWhile Char.isDigit)
  | rest => (whole, [], rest)

/-- An unsigned number in digits. -/
def readDigits? (negative : Bool) (cs : List Char) : Option Binary64 :=
  let (whole, fraction, rest) := splitFraction cs
  match digitsValue? (whole ++ fraction), readPower? rest with
  | some m, some e => some (ofDecimal negative m (e - fraction.length))
  | _, _ => none

/-- An unsigned number in words. -/
def readWord? (negative : Bool) (cs : List Char) : Option Binary64 :=
  let word := String.ofList (cs.map Char.toLower)
  if word == "nan" then some .nan
  else if word == "inf" || word == "infinity" then some (.infinite negative)
  else none

/-- Reads a number. -/
def read? (s : String) : Option Binary64 :=
  let (negative, cs) :=
    match s.toList with
    | '-' :: rest => (true, rest)
    | '+' :: rest => (false, rest)
    | rest => (false, rest)
  (readDigits? negative cs).or (readWord? negative cs)

end TableQuery.Binary64
