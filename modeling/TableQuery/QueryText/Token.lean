import TableQuery.QueryText.Quoted
import TableQuery.Text.Blank

/-!
# Tokens of a query

As much of the structure of a query as it takes to tell its statements apart: words, parentheses and
semicolons outside of quotes and comments. Comments in signs nest. Loops run on a `size` that is
more than the number of characters left.
-/

namespace TableQuery.QueryText

/-- A token of a query. -/
inductive Token where
  /-- A word, in capital letters. -/
  | word (text : String)
  | openParen
  | closeParen
  | semicolon
  | star
  /-- Anything else: a quoted text, or a sign. -/
  | other
  deriving DecidableEq, Repr

/-- Whether the character may start a word. -/
def startsWord (c : Char) : Bool :=
  Text.isLetter c || c == '_' || c == '#' || c == '@'

/-- Whether the character may stand in a word. -/
def isWordChar (c : Char) : Bool :=
  startsWord c || c.isDigit || c == '$'

/-- The capital letters for a character, where these are letters of ASCII. -/
def capitals (c : Char) : List Char :=
  match c with
  | 'ß' => ['S', 'S']
  | 'ı' => ['I']
  | 'ſ' => ['S']
  | 'ﬀ' => ['F', 'F']
  | 'ﬁ' => ['F', 'I']
  | 'ﬂ' => ['F', 'L']
  | 'ﬃ' => ['F', 'F', 'I']
  | 'ﬄ' => ['F', 'F', 'L']
  | 'ﬅ' => ['S', 'T']
  | 'ﬆ' => ['S', 'T']
  | c => [c.toUpper]

/-- What is left behind a comment in signs, of which some are open. -/
def skipComment : Nat → List Char → Option (List Char)
  | _, [] => none
  | depth, '*' :: '/' :: rest => if depth = 0 then some rest else skipComment (depth - 1) rest
  | depth, '/' :: '*' :: rest => skipComment (depth + 1) rest
  | depth, _ :: rest => skipComment depth rest

/-- What is left behind a number, of which the first digit has been passed. -/
def skipNumber (first : Char) (rest : List Char) : List Char :=
  match first, rest with
  | '0', 'x' :: ds => ds.dropWhile fun c => (Text.digitIn? 16 c).isSome
  | _, ds => ds.dropWhile Char.isDigit

/-- The signs that are made of a sign and the one that follows it. -/
def pairedSigns : List (Char × Char) :=
  [('/', '/'), ('#', '-'), ('#', '>'), ('@', '>'), ('@', '?')]

/-- Whether a hash or an at-sign stands alone, given what follows it. Otherwise the next character
belongs to the same word, whatever it is. -/
def standsAlone (sign : Char) (next : Option Char) : Bool :=
  match next with
  | none => true
  | some c => c == ' ' || (sign == '@' && (c == '\'' || c == '"' || c == '\x60'))

/-- What a word at the start is made of, and what is left behind it. -/
def splitWord (c : Char) (rest : List Char) : List Char × List Char :=
  match c == '#' || c == '@', rest with
  | true, d :: rest => (c :: d :: rest.takeWhile isWordChar, rest.dropWhile isWordChar)
  | _, rest => (c :: rest.takeWhile isWordChar, rest.dropWhile isWordChar)

/-- The signs that have a meaning in a query, apart from parentheses, semicolons and stars. -/
def isSign (c : Char) : Bool :=
  "!%&+,-./:<=>?[\\]^\x7b|\x7d~#@".contains c

/-- The tokens of the characters; `none` where a quote or a comment stays open, or where a character
has no meaning in a query. -/
def tokens? : Nat → List Char → Option (List Token)
  | 0, _ => some []
  | _ + 1, [] => some []
  | size + 1, c :: rest =>
    let next := rest.head?
    let after (token : Token) (rest : List Char) : Option (List Token) :=
      (tokens? size rest).map (token :: ·)
    if Text.isBlank c then tokens? size rest
    else if c == '-' && next == some '-' then tokens? size (rest.dropWhile (· != '\n'))
    else if c == '/' && next == some '*' then (skipComment 0 (rest.drop 1)).bind (tokens? size)
    else if next.any fun d => pairedSigns.contains (c, d) then after .other (rest.drop 1)
    else if (c == '#' || c == '@') && standsAlone c next then after .other rest
    else if startsWord c then
      match announced? c rest with
      | some (kind, quote, rest) => (skipText kind quote rest).bind (after .other)
      | none =>
        let (word, rest) := splitWord c rest
        after (.word (String.ofList (word.flatMap capitals))) rest
    else if c.isDigit then after .other (skipNumber c rest)
    else if c == '(' then after .openParen rest
    else if c == ')' then after .closeParen rest
    else if c == ';' then after .semicolon rest
    else if c == '*' then after .star rest
    else if c == '\'' || c == '"' || c == '\x60' then (skipQuoted c rest).bind (after .other)
    else if c == '$' then (skipDollar rest).bind (after .other)
    else if isSign c then after .other rest
    else none

end TableQuery.QueryText
