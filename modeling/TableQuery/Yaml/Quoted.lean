import TableQuery.Text.Numeral
import TableQuery.Yaml.Gap

/-!
# Quoted scalars

Scalars between single quotes, where a quote is written twice, and between double quotes, where a
backslash starts an escape. No line of a quoted scalar may be indented less than what it belongs to.
Loops run on a `size` that is more than the number of characters left.
-/

namespace TableQuery.Yaml.Quoted

/-- Letters behind a backslash and the characters they stand for. -/
def escapes : List (Char × Char) :=
  [('0', '\x00'), ('a', '\x07'), ('b', '\x08'), ('t', '\t'), ('\t', '\t'), ('n', '\n'),
   ('v', '\x0b'), ('f', '\x0c'), ('r', '\x0d'), ('e', '\x1b'), (' ', ' '), ('"', '"'), ('/', '/'),
   ('\\', '\\'), ('N', Char.ofNat 0x85), ('_', Char.ofNat 0xA0), ('L', Char.ofNat 0x2028),
   ('P', Char.ofNat 0x2029)]

/-- The number of digits behind a letter that starts a numeric escape. -/
def escapeWidth? (c : Char) : Option Nat :=
  if c = 'x' then some 2 else if c = 'u' then some 4 else if c = 'U' then some 8 else none

/-- The character that the escape behind a backslash stands for, and the length of the escape. -/
def escape? : List Char → Option (Char × Nat)
  | [] => none
  | c :: rest =>
    match escapeWidth? c with
    | some width =>
      let ds := rest.take width
      match Text.digitsIn? 16 ds with
      | some n =>
        if ds.length = width ∧ n.isValidChar then some (Char.ofNat n, width + 1) else none
      | none => none
    | none => (escapes.find? (·.1 == c)).map fun e => (e.2, 1)

/-- A word of a quoted scalar: its characters, whether an escaped line end follows it, and the place
behind it. -/
def word? (quote : Char) : Nat → Cursor → Option (List Char × Bool × Cursor)
  | 0, c => some ([], false, c)
  | size + 1, c =>
    let single := quote == '\''
    let next (x : Char) (n : Nat) : Option (List Char × Bool × Cursor) :=
      (word? quote size (c.pass n)).map fun (xs, broken, c) => (x :: xs, broken, c)
    if endsWord c.peek then some ([], false, c)
    else if c.peek == quote then
      if single && c.peekAt 1 == quote then next quote 2 else some ([], false, c)
    else if c.peek == '\\' && !single then
      if isBreak (c.peekAt 1) then some ([], true, (c.pass 1).passBreak)
      else
        match escape? (c.rest.drop 1) with
        | some (x, n) => next x (n + 1)
        | none => none
    else next c.peek 1

/-- The text up to the quote that ends the scalar, and the place of that quote. -/
def words? (quote : Char) (indent : Int) : Nat → Cursor → Option (List Char × Cursor)
  | 0, _ => none
  | size + 1, c =>
    if c.atBoundary || c.atEnd || (c.column : Int) < indent then none
    else
      match word? quote (c.rest.length + 1) c with
      | none => none
      | some (cs, broken, c) =>
        if c.peek == quote then some (cs, c)
        else
          let gap := if broken then Gap.lines false 0 else Gap.none
          match Gap.read? false indent (c.rest.length + 1) gap c with
          | none => none
          | some (gap, c) =>
            (words? quote indent size c).map fun (more, c) => (cs ++ gap.text ++ more, c)

/-- Whether the character may follow a quoted scalar. -/
def mayFollow (inFlow sameLine : Bool) (c : Char) : Bool :=
  endsLine c || (inFlow && (c == ',' || c == '\x7d' || c == ']'))
    || (c == ':' && (inFlow || sameLine))

/-- The text of a quoted scalar that starts here with its quote. Blanks and a comment behind it are
passed as well. -/
def read? (inFlow : Bool) (indent : Int) (start : Cursor) : Option (String × Cursor) :=
  let c := start.pass 1
  match words? start.peek indent (c.rest.length + 1) c with
  | none => none
  | some (cs, c) =>
    match (c.pass 1).skipLineEnd? with
    | none => none
    | some c =>
      if mayFollow inFlow (start.line == c.line) c.peek then some (String.ofList cs, c) else none

end TableQuery.Yaml.Quoted
