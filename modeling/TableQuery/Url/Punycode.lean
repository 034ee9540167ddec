/-!
# Labels in letters, digits and hyphens

A label of a domain name with characters of all scripts can be written in ASCII: its ASCII
characters come first, and behind the last hyphen numbers in base 36 say which other characters
stand between them, and where. The digits of each number have weights that depend on the numbers
before it.
-/

namespace TableQuery.Url.Punycode

/-- The value of a digit in base 36; letters come before digits. -/
def digit? (c : Char) : Option Nat :=
  if 'a' ≤ c ∧ c ≤ 'z' then some (c.toNat - 'a'.toNat)
  else if c.isDigit then some (c.toNat - '0'.toNat + 26)
  else none

/-- The least value of a digit that another one follows, at a place, given the bias. -/
def threshold (place bias : Nat) : Nat :=
  if place ≤ bias then 1 else if bias + 26 ≤ place then 26 else place - bias

/-- Makes a number small, and counts the steps in units of the base. -/
def shrink (k delta : Nat) : Nat :=
  if h : 455 < delta then shrink (k + 36) (delta / 35) else k + 36 * delta / (delta + 38)
termination_by delta
decreasing_by exact Nat.div_lt_self (by omega) (by omega)

/-- The bias behind a number, given how many characters there are by then. -/
def adapt (delta count : Nat) (isFirst : Bool) : Nat :=
  let delta := if isFirst then delta / 700 else delta / 2
  shrink 0 (delta + delta / count)

/-- The greatest number in between. -/
def greatest : Nat := 0xFFFFFFFF

/-- A number that starts here, added to another one, and the digits left. -/
def number? (bias sum weight place : Nat) : List Char → Option (Nat × List Char)
  | [] => none
  | c :: rest =>
    match digit? c with
    | none => none
    | some d =>
      let sum := sum + d * weight
      let t := threshold place bias
      if greatest < sum then none
      else if d < t then some (sum, rest)
      else if greatest < weight * (36 - t) then none
      else number? bias sum (weight * (36 - t)) (place + 36) rest

/-- Puts the characters that the digits stand for among those that there are. The number `n` of the
next character and its `place` are counted from those of the last one. -/
def insertAll? : Nat → Nat → Nat → Nat → List Char → List Char → Option (List Char)
  | 0, _, _, _, _, _ => none
  | _ + 1, _, _, _, done, [] => some done
  | size + 1, bias, n, place, done, ds =>
    match number? bias place 1 36 ds with
    | none => none
    | some (sum, rest) =>
      let count := done.length + 1
      let bias := adapt (sum - place) count (place == 0)
      let n := n + sum / count
      let place := sum % count
      if n.isValidChar then
        insertAll? size bias n (place + 1) (done.insertIdx place (Char.ofNat n)) rest
      else none

/-- The label that a text in small letters, digits and hyphens stands for. -/
def decode? (cs : List Char) : Option (List Char) :=
  let digits := (cs.reverse.takeWhile (· != '-')).reverse
  let basic := (cs.take (cs.length - digits.length)).dropLast
  if basic.isEmpty && cs.contains '-' then none
  else if basic.any (0x80 ≤ ·.toNat) then none
  else insertAll? (cs.length + 1) 72 0x80 0 basic digits

end TableQuery.Url.Punycode
