import TableQuery.Text.Casing
import TableQuery.Text.DigitTable

/-!
# Patterns

Regular expressions over text. A pattern takes the positions where a match may stand so far to those
where it may stand afterwards; a text has a match if some position is left in the end. An unbounded
repetition stops once it has been tried as often as there are positions.
-/

namespace TableQuery

/-- What a pattern says about one character. -/
inductive CharTest where
  | literal (c : Char)
  /-- Any character but a line end. -/
  | any
  /-- A decimal digit of any script. -/
  | digit
  /-- A character of one of the ranges, or of none of them. -/
  | ranges (negated : Bool) (ranges : List (Char × Char))
  deriving DecidableEq, Repr

namespace CharTest

/-- Whether the character lies in a range, where case may not matter. -/
def inRange (fold : Bool) (r : Char × Char) (c : Char) : Bool :=
  let within (c : Char) : Bool := r.1 ≤ c && c ≤ r.2
  within c || (fold && (within (Text.foldCase c) || within c.toUpper))

/-- Whether the character passes, where case may not matter. -/
def passes (fold : Bool) (t : CharTest) (c : Char) : Bool :=
  match t with
  | .literal d => c == d || (fold && Text.foldCase c == Text.foldCase d)
  | .any => c != '\n'
  | .digit => Text.isDecimalDigit c
  | .ranges negated rs => rs.any (inRange fold · c) != negated

end CharTest

/-- A regular expression. -/
inductive Pattern where
  | empty
  | one (fold : Bool) (test : CharTest)
  /-- The start of the text. -/
  | start
  /-- The end of the text. -/
  | finish
  | seq (first second : Pattern)
  | alt (first second : Pattern)
  /-- A pattern in parentheses. -/
  | group (p : Pattern)
  /-- At least `least` times, and at most `most` times if that is given. -/
  | times (p : Pattern) (least : Nat) (most : Option Nat)
  deriving DecidableEq, Repr

namespace Pattern

/-- The positions of either list, each once. -/
def join (xs ys : List Nat) : List Nat :=
  xs ++ ys.filter fun y => !xs.contains y

/-- Steps a number of times. -/
def repeated (step : List Nat → List Nat) : Nat → List Nat → List Nat
  | 0, xs => xs
  | n + 1, xs => repeated step n (step xs)

/-- Steps up to a number of times, and no longer than new positions turn up. -/
def upTo (step : List Nat → List Nat) : Nat → List Nat → List Nat
  | 0, xs => xs
  | n + 1, xs =>
    let ys := join xs (step xs)
    if ys.length = xs.length then xs else upTo step n ys

/-- Where a match of the pattern that starts at one of the positions can end. -/
def advance (text : Array Char) : Pattern → List Nat → List Nat
  | .empty, xs => xs
  | .one fold test, xs =>
    xs.filterMap fun i => (text[i]?.filter (test.passes fold)).map fun _ => i + 1
  | .start, xs => xs.filter (· == 0)
  | .finish, xs => xs.filter (· == text.size)
  | .seq p q, xs => advance text q (advance text p xs)
  | .alt p q, xs => join (advance text p xs) (advance text q xs)
  | .group p, xs => advance text p xs
  | .times p least most, xs =>
    let more :=
      match most with
      | some n => n - least
      | none => text.size + 1
    upTo (advance text p) more (repeated (advance text p) least xs)

/-- Whether a match can be found anywhere in the text. -/
def matchesIn (p : Pattern) (text : String) : Bool :=
  let chars := text.toList.toArray
  !(p.advance chars (List.range (chars.size + 1))).isEmpty

end Pattern

/-! ## Size

Patterns have two bounds: how deep their parts may be nested, and how many states an automaton for
them would have, in which a counted repetition takes as many copies as it counts.
-/

namespace CharTest

/-- How deep the parts of a class in brackets are nested. -/
def nesting : CharTest → Nat
  | .ranges _ [_] => 1
  | .ranges _ _ => 2
  | _ => 0

/-- About how many states the test takes, byte by byte. -/
def states (fold : Bool) : CharTest → Nat
  | .literal c => if fold then 3 * c.utf8Size else c.utf8Size
  | .any => 31
  | .digit => 160
  | .ranges .. => 3

end CharTest

namespace Pattern

/-- How deep the parts of a pattern are nested, where it may be a piece of a sequence or a branch of
a choice that counts already. -/
def nestingWithin (inSeq inAlt : Bool) : Pattern → Nat
  | .empty | .start | .finish => 0
  | .one _ test => test.nesting
  | .seq .empty q => nestingWithin false false q
  | .seq p q =>
    max (nestingWithin true false p) (nestingWithin false false q) + if inSeq then 0 else 1
  | .alt p q =>
    max (nestingWithin false false p) (nestingWithin false true q) + if inAlt then 0 else 1
  | .group p => nestingWithin false false p + 1
  | .times p _ _ => nestingWithin false false p + 1

/-- How deep the parts of a pattern are nested. -/
def nesting (p : Pattern) : Nat :=
  nestingWithin false false p

/-- About how many states a pattern takes. -/
def states : Pattern → Nat
  | .empty | .start | .finish => 1
  | .one fold test => test.states fold
  | .seq p q => states p + states q
  | .alt p q => states p + states q + 2
  | .group p => states p + 2
  | .times p least most =>
    let once := states p
    least * once + ((most.map (· - least)).getD 1) * (once + 1)

/-- How deep the parts of a pattern may be nested. -/
def maxNesting : Nat := 250

/-- The greatest number of states. -/
def maxStates : Nat := 327680

/-- Whether a pattern keeps within both bounds. -/
def isSmall (p : Pattern) : Bool :=
  p.nesting ≤ maxNesting && p.states ≤ maxStates

end Pattern

end TableQuery
