import TableQuery.Pattern.Basic
import TableQuery.Text.Blank
import TableQuery.Text.Numeral

/-!
# Reading patterns

The written form of patterns: characters, `\d`, `.` and classes in brackets, `^` and `$`, groups,
`|`, the repetitions `*`, `+`, `?` and those with numbers in braces, and `(?i)`, behind which case
does not matter up to the end of the group. Loops run on a `size` that is more than the number of
characters left.
-/

namespace TableQuery.Pattern

/-! ## Characters -/

/-- The test that a character behind a backslash gives: a digit for `d`, and itself for a character
that is no letter and no digit. -/
def escapeTest? (c : Char) : Option CharTest :=
  if c == 'd' then some .digit
  else if c.toNat < 0x80 && !c.isAlphanum && c != '<' && c != '>' then some (.literal c)
  else none

def classChar? : List Char → Option (Char × List Char)
  | '\\' :: c :: rest =>
    match escapeTest? c with
    | some (.literal c) => some (c, rest)
    | _ => none
  | '\\' :: [] => none
  | '[' :: _ => none
  | c :: rest => some (c, rest)
  | [] => none

/-- The ranges of a class up to the bracket that closes it, which counts as a character when it
comes first. -/
def classRanges? : Nat → Bool → List Char → Option (List (Char × Char) × List Char)
  | 0, _, _ => none
  | size + 1, first, cs =>
    if cs.head? == some ']' && !first then some ([], cs.drop 1)
    else
      match classChar? cs with
      | none => none
      | some (lo, '-' :: rest) =>
        if rest.head? == some ']' then
          (classRanges? size false ('-' :: rest)).map fun (rs, rest) => ((lo, lo) :: rs, rest)
        else
          match classChar? rest with
          | some (hi, rest) =>
            if lo ≤ hi then
              (classRanges? size false rest).map fun (rs, rest) => ((lo, hi) :: rs, rest)
            else none
          | none => none
      | some (c, rest) =>
        (classRanges? size false rest).map fun (rs, rest) => ((c, c) :: rs, rest)

/-- A class, behind its opening bracket. -/
def class? (cs : List Char) : Option (CharTest × List Char) :=
  let (negated, cs) :=
    match cs with
    | '^' :: rest => (true, rest)
    | cs => (false, cs)
  (classRanges? (cs.length + 1) true cs).map fun (rs, rest) => (.ranges negated rs, rest)

/-! ## Repetitions -/

/-- A count in front, which is a word of 32 bits with blanks around it, and what is left. -/
def count? (cs : List Char) : Option (Nat × List Char) :=
  let cs := cs.dropWhile Text.isBlank
  match Text.readNat? (Word.greatest 32) (String.ofList (cs.takeWhile Char.isDigit)) with
  | some n => some (n, (cs.dropWhile Char.isDigit).dropWhile Text.isBlank)
  | none => none

/-- The bounds of a repetition, behind its opening brace. -/
def bounds? (cs : List Char) : Option ((Nat × Option Nat) × List Char) :=
  match count? cs with
  | some (least, '\x7d' :: rest) => some ((least, some least), rest)
  | some (least, ',' :: '\x7d' :: rest) => some ((least, none), rest)
  | some (least, ',' :: rest) =>
    match count? rest with
    | some (most, '\x7d' :: rest) => if least ≤ most then some ((least, some most), rest) else none
    | _ => none
  | _ => none

/-- What a character repeats, and what is left, if it starts a repetition. -/
def repetition? : List Char → Option (Option ((Nat × Option Nat) × List Char))
  | '*' :: rest => some (some ((0, none), rest))
  | '+' :: rest => some (some ((1, none), rest))
  | '?' :: rest => some (some ((0, some 1), rest))
  | '\x7b' :: rest => some (bounds? rest)
  | _ => none

/-- Whether a repetition takes as much as it can makes no difference to whether there is a match. -/
def skipLazy : List Char → List Char
  | '?' :: rest => rest
  | cs => cs

/-! ## Patterns -/

/-- A part of a pattern that is being read. -/
structure Branch where
  /-- All but the last piece. -/
  done : Pattern
  /-- The last piece, if it can be repeated. -/
  last : Option Pattern
  /-- Case does not matter from here on. -/
  fold : Bool

namespace Branch

/-- All pieces in order. -/
def pattern (b : Branch) : Pattern :=
  match b.last with
  | some p => .seq b.done p
  | none => b.done

/-- Adds a piece. -/
def push (b : Branch) (p : Pattern) : Branch :=
  { b with done := b.pattern, last := some p }

/-- Adds a piece of one character. -/
def pushOne (b : Branch) (t : CharTest) : Branch :=
  b.push (.one b.fold t)

/-- From here on case does not matter. The switch counts as a piece that cannot be repeated. -/
def folding (b : Branch) : Branch :=
  ⟨.seq b.pattern .empty, none, true⟩

/-- Repeats the last piece, if there is one. -/
def repeat? (b : Branch) (bounds : Nat × Option Nat) : Option Branch :=
  b.last.map fun p => { b with last := some (.times p bounds.1 bounds.2) }

/-- A branch without any pieces yet. -/
def new (fold : Bool) : Branch :=
  ⟨.empty, none, fold⟩

end Branch

mutual

/-- The branches of a group, up to its end. -/
def branches? : Nat → Bool → List Char → Option (Pattern × List Char)
  | 0, _, _ => none
  | size + 1, fold, cs =>
    match branch? size (Branch.new fold) cs with
    | some (b, '|' :: rest) =>
      (branches? size b.fold rest).map fun (p, rest) => (.alt b.pattern p, rest)
    | some (b, rest) => some (b.pattern, rest)
    | none => none

/-- The pieces of a branch, up to its end. -/
def branch? : Nat → Branch → List Char → Option (Branch × List Char)
  | 0, _, _ => none
  | size + 1, b, cs =>
    match cs with
    | [] | '|' :: _ | ')' :: _ => some (b, cs)
    | '(' :: '?' :: 'i' :: ')' :: rest => branch? size b.folding rest
    | '(' :: '?' :: _ => none
    | '(' :: rest =>
      match branches? size b.fold rest with
      | some (p, ')' :: rest) => branch? size (b.push (.group p)) rest
      | _ => none
    | '[' :: rest =>
      match class? rest with
      | some (t, rest) => branch? size (b.pushOne t) rest
      | none => none
    | '\\' :: c :: rest =>
      match escapeTest? c with
      | some t => branch? size (b.pushOne t) rest
      | none => none
    | '\\' :: [] => none
    | '.' :: rest => branch? size (b.pushOne .any) rest
    | '^' :: rest => branch? size (b.push .start) rest
    | '$' :: rest => branch? size (b.push .finish) rest
    | c :: rest =>
      match repetition? (c :: rest) with
      | none => branch? size (b.pushOne (.literal c)) rest
      | some none => none
      | some (some (bounds, rest)) =>
        match b.repeat? bounds with
        | some b => branch? size b (skipLazy rest)
        | none => none

end

/-- Reads a pattern, which has to keep within the bounds of patterns. -/
def read? (s : String) : Option Pattern :=
  let cs := s.toList
  match branches? (2 * cs.length + 2) false cs with
  | some (p, []) => if p.isSmall then some p else none
  | _ => none

end TableQuery.Pattern
