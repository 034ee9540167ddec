import TableQuery.Number.Binary64

/-!
# Shortest decimal text

A finite number is written with the fewest decimal digits that read back as the same number, and
with the digits nearest to it among those. How ties go and how the digits are laid out (where the
exponent form begins) is a separate record.
-/

namespace TableQuery.Binary64

/-- Decimal digits `d₁d₂…` of a positive number, and the power `p` in `0.d₁d₂… · 10^p`. -/
structure Digits where
  digits : List Char
  point : Int
  deriving DecidableEq, Repr

/-- The numbers between which everything rounds to `m · 2^q`, as four times their ratio to
`2^(q - 2)`: the lower end and the upper end. -/
def interval (m : Nat) (q : Int) : Nat × Nat :=
  if m = leastSignificand && minExponent < q then (4 * m - 1, 4 * m + 2) else (4 * m - 2, 4 * m + 2)

/-- A positive ratio multiplied by a power of ten. -/
def scaleTen (num den : Nat) (power : Int) : Nat × Nat :=
  if 0 ≤ power then (num * Nat.pow 10 power.toNat, den) else (num, den * Nat.pow 10 (-power).toNat)

/-- The least `p` with `num / den < 10^p`. -/
def decimalPoint (num den : Nat) : Int :=
  let guess : Int := (((num.log2 : Int) - den.log2) * 1233).fdiv 4096
  let fits (p : Int) : Bool :=
    let (a, b) := scaleTen num den (-p)
    decide (a < b)
  if fits (guess - 1) then guess - 1
  else if fits guess then guess
  else if fits (guess + 1) then guess + 1
  else guess + 2

/-- A value with its rounding interval, over one denominator. -/
structure Bracket where
  low : Nat
  value : Nat
  high : Nat
  den : Nat
  closed : Bool

/-- The bracket of `m · 2^q`. The ends belong to it when `m` is even. -/
def bracket (m : Nat) (q : Int) : Bracket :=
  let (lo, hi) := interval m q
  let (unit, den) := scaleRatio 1 1 (q - 2)
  ⟨lo * unit, 4 * m * unit, hi * unit, den, m % 2 == 0⟩

/-- Whether `k` units of the grid lie in the bracket; `unit` is over the bracket's denominator
multiplied by `scale`. -/
def Bracket.holds (b : Bracket) (k unit scale : Nat) : Bool :=
  let x := k * unit
  if b.closed then decide (b.low * scale ≤ x ∧ x ≤ b.high * scale)
  else decide (b.low * scale < x ∧ x < b.high * scale)

/-- Which of two decimals is taken when both are equally near. -/
inductive Tie where
  /-- The greater one. -/
  | up
  /-- The one whose last digit is even. -/
  | toEven
  deriving DecidableEq, Repr

/-- Whether `k` is taken and not `k + 1` when both are equally near. -/
def Tie.keepsLower : Tie → Nat → Bool
  | .up, _ => false
  | .toEven, k => k % 2 == 0

/-- The grid point with `n` digits nearest to the value, if one of the two neighbours lies in the
bracket. -/
def Bracket.onGrid? (tie : Tie) (b : Bracket) (point : Int) (n : Nat) : Option Nat :=
  let e := point - n
  let unit := if 0 ≤ e then Nat.pow 10 e.toNat * b.den else b.den
  let scale := if 0 ≤ e then 1 else Nat.pow 10 (-e).toNat
  let k := b.value * scale / unit
  match b.holds k unit scale, b.holds (k + 1) unit scale with
  | true, true =>
    let below := b.value * scale - k * unit
    let above := (k + 1) * unit - b.value * scale
    some (if below < above || (below == above && tie.keepsLower k) then k else k + 1)
  | true, false => some k
  | false, true => some (k + 1)
  | false, false => none

/-- Tries grids of `n`, `n + 1`, … digits. -/
def Bracket.search (tie : Tie) (b : Bracket) (point : Int) : Nat → Nat → Nat × Nat
  | 0, n => (b.value / b.den, n)
  | fuel + 1, n =>
    match b.onGrid? tie point n with
    | some k => (k, n)
    | none => b.search tie point fuel (n + 1)

/-- The shortest digits of `m · 2^q`, for positive `m`. -/
def shortest (tie : Tie) (m : Nat) (q : Int) : Digits :=
  let b := bracket m q
  let point := decimalPoint b.value b.den
  let (k, n) := b.search tie point 17 1
  let ds := Nat.toDigits 10 k
  let kept := (ds.reverse.dropWhile (· == '0')).reverse
  ⟨kept, point + (ds.length : Int) - n⟩

/-- Where the positional form is used, for points from `first` to `last`, how ties go, and whether a
positive power of ten has a sign. -/
structure Layout where
  first : Int
  last : Int
  tie : Tie
  plus : Bool
  deriving DecidableEq, Repr

/-- Positional from `0.0001` up to below `10^16`; powers without a plus sign, as in `1e16`. -/
def sqlLayout : Layout := ⟨-3, 16, .up, false⟩

/-- Positional from `0.00001` up to below `10^16`; powers with a plus sign, as in `1e+16`. -/
def jsonLayout : Layout := ⟨-4, 16, .toEven, true⟩

/-- The digits with a decimal point, at least one digit on either side. -/
def positional (d : Digits) : String :=
  if d.point ≤ 0 then
    "0." ++ String.ofList (List.replicate (-d.point).toNat '0' ++ d.digits)
  else
    let n := d.point.toNat
    let whole := d.digits.take n
    let whole := whole ++ List.replicate (n - whole.length) '0'
    let fraction := d.digits.drop n
    String.ofList whole ++ "." ++ (if fraction.isEmpty then "0" else String.ofList fraction)

/-- One digit, the other digits after a point, and the power of ten, with a plus sign if asked
for. -/
def scientific (plus : Bool) (d : Digits) : String :=
  let head := String.ofList (d.digits.take 1)
  let tail := d.digits.drop 1
  let fraction := if tail.isEmpty then "" else "." ++ String.ofList tail
  let power := d.point - 1
  head ++ fraction ++ "e" ++ (if plus && 0 ≤ power then "+" else "") ++ toString power

/-- The text of a number under a layout. -/
def text (layout : Layout) : Binary64 → String
  | .nan => "NaN"
  | .infinite negative => if negative then "-inf" else "inf"
  | .finite negative m q =>
    let sign := if negative then "-" else ""
    if m = 0 then sign ++ "0.0"
    else
      let d := shortest layout.tie m q
      let form :=
        if layout.first ≤ d.point && d.point ≤ layout.last then positional d
        else scientific layout.plus d
      sign ++ form

/-- The text of a number without a power of ten, and without a point where it is whole. -/
def plainText : Binary64 → String
  | .nan => "NaN"
  | .infinite negative => if negative then "-inf" else "inf"
  | .finite negative m q =>
    let sign := if negative then "-" else ""
    if m = 0 then sign ++ "0"
    else
      let d := shortest .up m q
      if (d.digits.length : Int) ≤ d.point then
        let zeros := (d.point - d.digits.length).toNat
        sign ++ String.ofList (d.digits ++ List.replicate zeros '0')
      else sign ++ positional d

/-- The nearest natural number, where a half goes up and what is below zero counts as zero. -/
def roundedNat : Binary64 → Nat
  | .finite false m q => let (a, b) := ratio m q; (2 * a + b) / (2 * b)
  | .infinite false => Nat.pow 2 1024
  | _ => 0

end TableQuery.Binary64
