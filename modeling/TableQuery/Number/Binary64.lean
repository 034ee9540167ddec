/-!
# Binary floating-point numbers

Numbers of 64 bits in binary, held exactly: a finite one is a sign, a whole significand below `2^53`
and a power of two. Rounding a ratio of whole numbers goes to the nearest such number, and to the
even significand when two are equally near.
-/

namespace TableQuery

/-- A binary floating-point number of 64 bits. `finite s m q` stands for `±m · 2^q`, where either
`2^52 ≤ m` or `q` is the least exponent. -/
inductive Binary64 where
  | nan
  | infinite (negative : Bool)
  | finite (negative : Bool) (significand : Nat) (exponent : Int)
  deriving DecidableEq, Repr

namespace Binary64

/-- The least exponent of the last binary place. -/
def minExponent : Int := -1074

/-- The greatest exponent of the last binary place. -/
def maxExponent : Int := 971

/-- Two to the power of 52: the least significand of a number that is not near zero. -/
def leastSignificand : Nat := 4503599627370496

/-- Two to the power of 53: every significand is below it. -/
def significandBound : Nat := 9007199254740992

/-- Zero of either sign. -/
def zero (negative : Bool) : Binary64 :=
  .finite negative 0 minExponent

/-- The quotient rounded to the nearest whole number, halves to the even one. -/
def roundDiv (num den : Nat) : Nat :=
  let d := num / den
  let r := num % den
  if 2 * r < den then d
  else if den < 2 * r then d + 1
  else d + d % 2

/-- Multiplies a ratio by a power of two, or by its inverse for a negative power. -/
def scaleRatio (num den : Nat) (power : Int) : Nat × Nat :=
  if 0 ≤ power then (num * Nat.pow 2 power.toNat, den) else (num, den * Nat.pow 2 (-power).toNat)

/-- The number nearest to a ratio of whole numbers. -/
def ofRatio (negative : Bool) (num den : Nat) : Binary64 :=
  if num = 0 then zero negative
  else
    let low : Int := (num.log2 : Int) - den.log2 - 53
    let (a, b) := scaleRatio num den (-low)
    let q := max (if a / b < significandBound then low else low + 1) minExponent
    let (a, b) := scaleRatio num den (-q)
    let m := roundDiv a b
    let (m, q) := if m = significandBound then (leastSignificand, q + 1) else (m, q)
    if maxExponent < q then .infinite negative else .finite negative m q

/-- The number nearest to `±m · 10^e`. Powers far outside the range are settled by their size. -/
def ofDecimal (negative : Bool) (m : Nat) (e : Int) : Binary64 :=
  if m = 0 then zero negative
  else if 400 < e then .infinite negative
  else if e + ((Nat.toDigits 10 m).length : Int) < -400 then zero negative
  else if 0 ≤ e then ofRatio negative (m * Nat.pow 10 e.toNat) 1
  else ofRatio negative m (Nat.pow 10 (-e).toNat)

/-- The magnitude as a ratio of whole numbers. -/
def ratio (m : Nat) (q : Int) : Nat × Nat :=
  scaleRatio m 1 q

def isFinite : Binary64 → Bool
  | .finite .. => true
  | _ => false

/-- Equality of numbers: not-a-number differs from all, and the two zeros are the same. -/
def same : Binary64 → Binary64 → Bool
  | .nan, _ => false
  | _, .nan => false
  | .finite n m q, .finite n' m' q' => (m == 0 && m' == 0) || (n == n' && m == m' && q == q')
  | .infinite n, .infinite n' => n == n'
  | _, _ => false

/-- The product, rounded. -/
def mul : Binary64 → Binary64 → Binary64
  | .finite n m q, .finite n' m' q' =>
    let (a, b) := scaleRatio (m * m') 1 (q + q')
    ofRatio (n != n') a b
  | .infinite n, .finite n' m' _ => if m' = 0 then .nan else .infinite (n != n')
  | .finite n m _, .infinite n' => if m = 0 then .nan else .infinite (n != n')
  | .infinite n, .infinite n' => .infinite (n != n')
  | _, _ => .nan

/-- The quotient of finite numbers, rounded; the divisor is not zero. -/
def div : Binary64 → Binary64 → Binary64
  | .finite n m q, .finite n' m' q' =>
    if m' = 0 then .nan
    else
      let (a, b) := scaleRatio m m' (q - q')
      ofRatio (n != n') a b
  | _, _ => .nan

end Binary64

end TableQuery
