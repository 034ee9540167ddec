/-!
# Places in a document

A place in the text of a document, with what the layout rules need to know about it: its line, its
column, and whether nothing but blanks stands before it on its line. Moves go forward only.
-/

namespace TableQuery.Yaml

/-! ## Classes of characters -/

/-- Blanks within a line. -/
def isBlank (c : Char) : Bool :=
  c == ' ' || c == '\t'

/-- Line ends. -/
def isBreak (c : Char) : Bool :=
  c == '\n' || c == '\r'

/-- Whether the character, which is zero at the end of the text, ends a line. -/
def endsLine (c : Char) : Bool :=
  isBreak c || c == '\x00'

/-- Whether the character, which is zero at the end of the text, ends a word. -/
def endsWord (c : Char) : Bool :=
  isBlank c || endsLine c

/-- Whether the character structures lists and tables in brackets. -/
def isFlowChar (c : Char) : Bool :=
  c == ',' || c == '[' || c == ']' || c == '\x7b' || c == '\x7d'

/-! ## Cursors -/

/-- A place in a document: the characters left, and how many have been passed. -/
structure Cursor where
  rest : List Char
  index : Nat
  line : Nat
  column : Nat
  /-- Only blanks stand before the place on its line. -/
  fresh : Bool
  deriving DecidableEq, Repr

namespace Cursor

/-- The start of a text, which ends at its first character zero. -/
def start (text : String) : Cursor :=
  ⟨text.toList.takeWhile (· != '\x00'), 0, 0, 0, true⟩

/-- The next character, or zero at the end. -/
def peek (c : Cursor) : Char :=
  c.rest.headD '\x00'

/-- The character some places ahead, or zero behind the end. -/
def peekAt (c : Cursor) (n : Nat) : Char :=
  (c.rest.drop n).headD '\x00'

/-- Whether the text ends here. -/
def atEnd (c : Cursor) : Bool :=
  c.rest.isEmpty

/-- The place behind some characters of the same line. -/
def pass (c : Cursor) (n : Nat) : Cursor :=
  ⟨c.rest.drop n, c.index + n, c.line, c.column + n, false⟩

/-- The place behind some blanks. -/
def passBlanks (c : Cursor) (n : Nat) : Cursor :=
  { c.pass n with fresh := c.fresh }

/-- The place behind a line end, which may be made of two characters. -/
def passBreak (c : Cursor) : Cursor :=
  let n := if c.peek == '\r' && c.peekAt 1 == '\n' then 2 else 1
  ⟨c.rest.drop n, c.index + n, c.line + 1, 0, true⟩

/-- The end of the line, where a comment starts. -/
def passComment (c : Cursor) : Cursor :=
  c.pass (c.rest.takeWhile fun x => !endsLine x).length

/-- The characters ahead that have a property, and the place behind them. -/
def span (c : Cursor) (p : Char → Bool) : List Char × Cursor :=
  let cs := c.rest.takeWhile p
  (cs, if cs.isEmpty then c else c.pass cs.length)

/-- The place behind the blanks ahead. -/
def skipBlanks (c : Cursor) : Cursor :=
  c.passBlanks (c.rest.takeWhile isBlank).length

/-- The place behind the spaces ahead, up to a column. -/
def skipSpacesTo (c : Cursor) (column : Nat) : Cursor :=
  c.passBlanks ((c.rest.take (column - c.column)).takeWhile (· == ' ')).length

/-- The place behind blanks and a comment, which has to have a blank in front. -/
def skipLineEnd? (c : Cursor) : Option Cursor :=
  let next := c.skipBlanks
  if next.peek == '#' then
    if next.index == c.index then none else some next.passComment
  else some next

/-- Whether one of the two markers of documents stands here: three dashes or three points at the
start of a line, as a word. -/
def atMarker (mark : Char) (c : Cursor) : Bool :=
  c.column == 0 && [mark, mark, mark].isPrefixOf c.rest && endsWord (c.peekAt 3)

/-- Whether a document starts or ends here. -/
def atBoundary (c : Cursor) : Bool :=
  c.atMarker '-' || c.atMarker '.'

end Cursor

end TableQuery.Yaml
