import TableQuery.Text.DirectionTable
import TableQuery.Url.JoiningTable
import TableQuery.Url.Mapping
import TableQuery.Url.Punycode

/-!
# Labels of domain names

The rules for the parts of a domain name between its dots, beyond those for single characters: a
label does not start with a mark, joiners stand only where they show, and where characters run from
right to left, every label has one direction.
-/

namespace TableQuery.Url

open TableQuery.Text

/-! ## Joiners -/

/-- How a character joins those around it. -/
def joining? (c : Char) : Option Joining :=
  (joinings.find? fun r => r.1 ≤ c.toNat && c.toNat ≤ r.2.1).map (·.2.2)

/-- Whether the first character that stands between letters has one of two ways to join. -/
def meetsJoining (a b : Joining) (cs : List Char) : Bool :=
  match cs.dropWhile fun c => joining? c == some .transparent with
  | [] => false
  | c :: _ => joining? c == some a || joining? c == some b

/-- The character that keeps letters apart. -/
def nonJoiner : Char := Char.ofNat 0x200C

/-- The character that joins letters. -/
def joiner : Char := Char.ofNat 0x200D

/-- The place of the marks that mute the vowel of a letter. -/
def muting : Nat := 9

/-- Whether every joiner shows; `before` holds the characters already passed, the last one first. A
joiner follows a muted letter, or keeps apart letters that would join. -/
def joinersShow (before : List Char) : List Char → Bool
  | [] => true
  | c :: rest =>
    let shows :=
      before.head?.any (markPlace · == muting)
        || (c == nonJoiner && meetsJoining .leading .both before
          && meetsJoining .trailing .both rest)
    (if c == joiner || c == nonJoiner then shows else true) && joinersShow (c :: before) rest

/-! ## Directions -/

/-- How a character takes part in the direction of a text. -/
def directionOf (c : Char) : Direction :=
  if c.toNat < 0x80 then
    if c.isDigit then .europeanNumber else if c.isAlpha then .left else .neutral
  else
    ((directions.find? fun r => r.1 ≤ c.toNat && c.toNat ≤ r.2.1).map (·.2.2)).getD .left

/-- Whether the character makes a text run from right to left. -/
def runsLeft (c : Char) : Bool :=
  directionOf c == .right || directionOf c == .arabicNumber

/-- Whether the directions, without the marks at the end, are those of a label from left to
right. -/
def isLeftToRight (ds : List Direction) : Bool :=
  ds.head? == some .left
    && ds.getLast?.any (fun d => d == .left || d == .europeanNumber)
    && ds.all fun d => d != .right && d != .arabicNumber

/-- Whether the directions, without the marks at the end, are those of a label from right to left.
Only one kind of numbers stands in it. -/
def isRightToLeft (ds : List Direction) : Bool :=
  ds.head? == some .right
    && ds.getLast?.any (fun d => d == .right || d == .europeanNumber || d == .arabicNumber)
    && ds.all (· != .left)
    && !(ds.contains .europeanNumber && ds.contains .arabicNumber)

def hasOneDirection (label : List Char) : Bool :=
  let ds := label.map directionOf
  let ds := (ds.reverse.dropWhile (· == .mark)).reverse
  label.isEmpty || isLeftToRight ds || isRightToLeft ds

/-! ## Labels -/

def startsWithMark (label : List Char) : Bool :=
  label.head?.any (CharRange.anyCovers marks)

/-- What stands in front of a label that is written in ASCII in place of other characters. -/
def codedStem : List Char :=
  "xn--".toList

/-- The greatest length of a label that is written in ASCII, and of one that could be. -/
def maxLengths : Nat × Nat := (2000, 1000)

/-- The characters that a label stands for, in the form in which names are compared. A label that is
written in ASCII stands for others, which have to be in that form already. -/
def readLabel? (label : List Char) : Option (List Char) :=
  if codedStem.isPrefixOf label then
    let code := label.drop codedStem.length
    if code.getLast?.all (· == '-') || maxLengths.1 < code.length then none
    else
      (Punycode.decode? code).filter fun cs => cs.any (0x80 ≤ ·.toNat) && isMapped cs
  else if label.any (0x80 ≤ ·.toNat) && maxLengths.2 < label.length then none
  else some label

/-- Whether the label keeps the rules for its characters. -/
def isSound (label : List Char) : Bool :=
  !startsWithMark label && joinersShow [] label

/-- Whether the labels keep the rules for domain names. -/
def areSound (labels : List (List Char)) : Bool :=
  labels.all isSound
    && (!labels.any (·.any runsLeft) || labels.all hasOneDirection)

end TableQuery.Url
