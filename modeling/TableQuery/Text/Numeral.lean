import TableQuery.Number.Word

/-!
# Numerals

Reading whole numbers written with ASCII digits and an optional sign, within bounds, and runs of
digits in other bases.
-/

namespace TableQuery.Text

/-- The value of a non-empty run of ASCII digits; `none` for anything else. -/
def digitsValue? (cs : List Char) : Option Nat :=
  if cs.isEmpty || !cs.all Char.isDigit then none
  else some (cs.foldl (fun n c => 10 * n + (c.toNat - '0'.toNat)) 0)

/-- Reads a whole number with an optional sign that lies between `lo` and `hi`. -/
def readInt? (lo hi : Int) (s : String) : Option Int :=
  let value? : Option Int :=
    match s.toList with
    | '-' :: ds => (digitsValue? ds).map fun n => -(n : Int)
    | '+' :: ds => (digitsValue? ds).map Int.ofNat
    | ds => (digitsValue? ds).map Int.ofNat
  value?.filter fun n => decide (lo ≤ n ∧ n ≤ hi)

/-- Reads a natural number with an optional plus sign that is at most `hi`. -/
def readNat? (hi : Nat) (s : String) : Option Nat :=
  let value? : Option Nat :=
    match s.toList with
    | '+' :: ds => digitsValue? ds
    | ds => digitsValue? ds
  value?.filter fun n => decide (n ≤ hi)

/-- The value of a digit in a base of at most sixteen. -/
def digitIn? (base : Nat) (c : Char) : Option Nat :=
  let value :=
    if c.isDigit then c.toNat - '0'.toNat
    else if 'a' ≤ c ∧ c ≤ 'f' then c.toNat - 'a'.toNat + 10
    else if 'A' ≤ c ∧ c ≤ 'F' then c.toNat - 'A'.toNat + 10
    else base
  if value < base then some value else none

/-- The value of a run of digits in a base; the empty run is zero. -/
def digitsIn? (base : Nat) (cs : List Char) : Option Nat :=
  cs.foldl (fun n c => n.bind fun n => (digitIn? base c).map (base * n + ·)) (some 0)

/-- Bounds of signed words of 64 bits. -/
def int64Min : Int := Word.leastSigned 63

/-- Bounds of signed words of 64 bits. -/
def int64Max : Int := Word.greatest 63

/-- The number written with at least `width` digits. -/
def padded (width n : Nat) : String :=
  let ds := Nat.toDigits 10 n
  String.ofList (List.replicate (width - ds.length) '0' ++ ds)

end TableQuery.Text
