import TableQuery.Text.Numeral

/-!
# Numeric host addresses

Which texts are addresses of the fourth and of the sixth version of the internet protocol.
-/

namespace TableQuery.Url

/-- The number in a part of an address, where a leading zero asks for base eight and `0x` for base
sixteen. -/
def addressNumber? : List Char → Option Nat
  | [] => none
  | '0' :: 'x' :: ds => Text.digitsIn? 16 ds
  | '0' :: 'X' :: ds => Text.digitsIn? 16 ds
  | '0' :: d :: ds => Text.digitsIn? 8 (d :: ds)
  | ds => Text.digitsIn? 10 ds

/-- The parts of a host between its dots, without the empty part behind a last dot. -/
def hostParts (host : List Char) : List (List Char) :=
  let parts := host.splitOn '.'
  if 1 < parts.length && parts.getLast? == some [] then parts.dropLast else parts

/-- Whether the last part of a host is a number, so that the host has to be an address. -/
def endsInNumber (host : List Char) : Bool :=
  match (hostParts host).getLast? with
  | none => false
  | some part => (!part.isEmpty && part.all Char.isDigit) || (addressNumber? part).isSome

/-- Whether the text is an address of four bytes, of which the last part may stand for several. -/
def isAddress4 (host : List Char) : Bool :=
  let parts := hostParts host
  match parts.mapM addressNumber? with
  | none => false
  | some numbers =>
    numbers.length ≤ 4 && numbers.dropLast.all (· < 256) &&
      numbers.getLast?.all (· < Nat.pow 256 (5 - numbers.length))

/-- Whether the text is four numbers below 256 without superfluous zeros, with dots in between. -/
def isDottedQuad (cs : List Char) : Bool :=
  let parts := cs.splitOn '.'
  parts.length == 4 && parts.all fun part =>
    (part.head? != some '0' || part.length == 1) && (Text.digitsValue? part).any (· < 256)

/-- Whether the text is one to four digits of base sixteen. -/
def isPiece (cs : List Char) : Bool :=
  !cs.isEmpty && cs.length ≤ 4 && cs.all fun c => (Text.digitIn? 16 c).isSome

/-- The number of pieces of 16 bits in one side of an address, if it is one; four numbers may stand
for the last two. -/
def pieces? (mayEndDotted : Bool) (cs : List Char) : Option Nat :=
  if cs.isEmpty then some 0
  else
    let parts := cs.splitOn ':'
    if parts.all isPiece then some parts.length
    else if mayEndDotted && parts.dropLast.all isPiece && parts.getLast?.any isDottedQuad then
      some (parts.length + 1)
    else none

/-- What stands before and behind the first two colons in a row. -/
def splitAtGap : List Char → Option (List Char × List Char)
  | [] => none
  | ':' :: ':' :: rest => some ([], rest)
  | c :: rest => (splitAtGap rest).map fun (before, after) => (c :: before, after)

/-- Whether the text is an address of eight pieces, where a gap stands for at least one. -/
def isAddress6 (cs : List Char) : Bool :=
  match splitAtGap cs with
  | none => pieces? true cs == some 8
  | some (before, after) =>
    match pieces? false before, pieces? true after with
    | some m, some n => m + n < 8
    | _, _ => false

end TableQuery.Url
