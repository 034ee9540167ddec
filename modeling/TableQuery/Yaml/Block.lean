import TableQuery.Yaml.Cursor

/-!
# Block scalars

The lines behind a bar or an angle bracket that are indented further than what they belong to.
Behind a bar they are kept as they are; behind an angle bracket they are joined to running text. The
header says how deep the lines are indented, where that cannot be told from the first of them, and
what becomes of the line ends behind the last.
-/

namespace TableQuery.Yaml.Block

/-- What becomes of the line ends behind a block scalar. -/
inductive Chomping where
  | strip | clip | keep
  deriving DecidableEq, Repr

/-- The header of a block scalar; where no indentation is given, it is zero. -/
structure Header where
  folded : Bool
  chomping : Chomping
  increment : Nat
  deriving DecidableEq, Repr

/-- The chomping that a sign asks for. -/
def chomping? (c : Char) : Option Chomping :=
  if c == '+' then some .keep else if c == '-' then some .strip else none

/-- An indentation of at least one, if a digit is here, and the place behind it. -/
def increment? (c : Cursor) : Option (Nat × Cursor) :=
  if c.peek.isDigit then
    if c.peek == '0' then none else some (c.peek.toNat - '0'.toNat, c.pass 1)
  else some (0, c)

/-- The header behind the bar or bracket, whose two parts may come in either order. -/
def header? (folded : Bool) (c : Cursor) : Option (Header × Cursor) :=
  match chomping? c.peek with
  | some chomping =>
    (increment? (c.pass 1)).map fun (increment, c) => (⟨folded, chomping, increment⟩, c)
  | none =>
    match increment? c with
    | none => none
    | some (0, c) => some (⟨folded, .clip, 0⟩, c)
    | some (increment, c) =>
      match chomping? c.peek with
      | some chomping => some (⟨folded, chomping, increment⟩, c.pass 1)
      | none => some (⟨folded, .clip, increment⟩, c)

/-- Passes empty lines and the indentation of the next line: the number of empty lines, and the
place. -/
def skipIndent (indent : Nat) : Nat → Nat → Cursor → Nat × Cursor
  | 0, n, c => (n, c)
  | size + 1, n, c =>
    let c := c.skipSpacesTo indent
    if isBreak c.peek then skipIndent indent size (n + 1) c.passBreak else (n, c)

/-- Passes empty lines and the indentation of the first line, and tells the widest indentation of
these lines: the number of empty lines, that indentation, and the place. -/
def findIndent : Nat → Nat → Nat → Cursor → Nat × Nat × Cursor
  | 0, n, widest, c => (n, widest, c)
  | size + 1, n, widest, c =>
    let c := c.passBlanks (c.rest.takeWhile (· == ' ')).length
    let widest := max widest c.column
    if isBreak c.peek then findIndent size (n + 1) widest c.passBreak else (n, widest, c)

/-- Line ends. -/
def breaks (n : Nat) : List Char :=
  List.replicate n '\n'

/-- What has been read of the lines of a block scalar. -/
structure Body where
  text : List Char
  /-- The last line has a line end. -/
  ended : Bool
  /-- The number of empty lines behind the last line. -/
  emptyLines : Nat
  /-- The last line starts with a blank. -/
  indented : Bool
  cursor : Cursor

/-- What stands between the lines read so far and a next one. -/
def Body.joint (b : Body) (folded nextIndented : Bool) : List Char :=
  if folded && b.ended && !b.indented && !nextIndented then
    if b.emptyLines = 0 then [' '] else breaks b.emptyLines
  else breaks ((if b.ended then 1 else 0) + b.emptyLines)

/-- Reads further lines that are indented to a column. -/
def lines (folded : Bool) (indent : Nat) : Nat → Body → Body
  | 0, b => b
  | size + 1, b =>
    let c := b.cursor
    if c.column != indent || c.atEnd || (indent == 0 && c.atMarker '.') then b
    else
      let line := c.rest.takeWhile fun x => !endsLine x
      let behind := if line.isEmpty then c else c.pass line.length
      let indented := isBlank c.peek
      let text := b.text ++ b.joint folded indented ++ line
      if behind.atEnd then ⟨text, false, 0, indented, behind⟩
      else
        let (emptyLines, next) := skipIndent indent (behind.rest.length + 1) 0 behind.passBreak
        lines folded indent size ⟨text, true, emptyLines, indented, next⟩

/-- The text of a block scalar whose lines have all been read. A line at the end that is indented
like the others and has no line end counts as if it had one. -/
def Body.chomped (b : Body) (chomping : Chomping) (indent : Nat) : List Char :=
  let last := (if b.ended then 1 else 0)
    + (if b.cursor.atEnd && max indent 1 ≤ b.cursor.column then 1 else 0)
  match chomping with
  | .strip => b.text
  | .clip => b.text ++ breaks last
  | .keep => b.text ++ breaks (last + b.emptyLines)

/-- The text of a block scalar without any line; `below` tells whether the text goes on below the
header at all. -/
def emptyText (chomping : Chomping) (below : Bool) (emptyLines : Nat) : List Char :=
  match chomping, below with
  | .clip, true => breaks 1
  | .keep, true => breaks (max 1 emptyLines)
  | _, _ => []

/-- The text of a block scalar that starts here with its bar or bracket, and belongs to something at
the column `parent`. -/
def read? (parent : Int) (start : Cursor) : Option (String × Cursor) :=
  match header? (start.peek == '>') (start.pass 1) with
  | none => none
  | some (h, c) =>
    match c.skipLineEnd? with
    | none => none
    | some c =>
      if !endsLine c.peek then none
      else
        let c := if isBreak c.peek then c.passBreak else c
        let size := c.rest.length + 1
        if c.peek == '\t' then none
        else
          let (emptyLines, indent, c) :=
            if h.increment = 0 then
              let (n, widest, c) := findIndent size 0 0 c
              let indent := max widest (parent + 1).toNat
              (n, if 0 < parent then max indent 1 else indent, c)
            else
              let indent := if 0 ≤ parent then (parent + h.increment).toNat else h.increment
              let (n, c) := skipIndent indent size 0 c
              (n, indent, c)
          if c.atEnd then
            some (String.ofList (emptyText h.chomping (start.line < c.line) emptyLines), c)
          else if c.column < indent && parent < (c.column : Int) then none
          else
            let body := lines h.folded indent size ⟨[], false, emptyLines, false, c⟩
            some (String.ofList (body.chomped h.chomping indent), body.cursor)

end TableQuery.Yaml.Block
