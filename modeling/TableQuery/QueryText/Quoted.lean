import TableQuery.Text.LetterTable
import TableQuery.Text.Numeral

/-!
# Quoted texts of a query

Where the quoted texts of a query end. Besides texts between quotes there are texts with a letter in
front of the quote, in which a backslash may start an escape, and texts between tags in dollar
signs. Each function gives what is left behind the text, or `none` where the text does not end or
holds an escape that stands for no character.
-/

namespace TableQuery.QueryText

/-! ## Texts without escapes -/

/-- What is left behind the quote that ends a quoted text; a quote written twice does not. -/
def skipQuoted (quote : Char) : List Char → Option (List Char)
  | [] => none
  | [c] => if c == quote then some [] else none
  | c :: d :: rest =>
    if c == quote then
      if d == quote then skipQuoted quote rest else some (d :: rest)
    else skipQuoted quote (d :: rest)

/-- What is left behind the first place where the characters stand. -/
def skipPast (stop : List Char) : List Char → Option (List Char)
  | [] => if stop.isEmpty then some [] else none
  | c :: rest =>
    if stop.isPrefixOf (c :: rest) then some ((c :: rest).drop stop.length) else skipPast stop rest

/-- A raw text, behind its first quote: another quote ends it at once, and two more begin a text
that only three quotes end. -/
def skipRaw (quote : Char) : List Char → Option (List Char)
  | c :: d :: rest =>
    if c == quote then
      if d == quote then skipPast [quote, quote, quote] rest else some (d :: rest)
    else skipQuoted quote (c :: d :: rest)
  | cs => skipQuoted quote cs

/-- A text between tags in dollar signs, behind the first sign. Where no second sign follows, there
is no text, and the tag is a name. -/
def skipDollar : List Char → Option (List Char)
  | '$' :: rest => skipPast ['$', '$'] rest
  | cs =>
    let isTagChar (c : Char) : Bool := Text.isLetterOrNumber c || c == '_'
    let tag := cs.takeWhile isTagChar
    match cs.dropWhile isTagChar with
    | '$' :: rest => skipPast ('$' :: tag ++ ['$']) rest
    | rest => some rest

/-! ## Texts with escapes -/

/-- A text in which a backslash takes the next character along, behind its first quote. -/
def skipHidden (quote : Char) : List Char → Option (List Char)
  | [] => none
  | [c] => if c == quote then some [] else none
  | c :: d :: rest =>
    if c == '\\' then skipHidden quote rest
    else if c == quote then
      if d == quote then skipHidden quote rest else some (d :: rest)
    else skipHidden quote (d :: rest)

/-- The value of some digits of base sixteen that is the number of a character. -/
def codePoint? (digits : List Char) : Option Nat :=
  (Text.digitsIn? 16 digits).filter fun n => n.isValidChar

/-- The character whose number follows in so many places, of which the first may be a plus sign. -/
def signedCodePoint? (places : Nat) (cs : List Char) : Option (Nat × List Char) :=
  if cs.length < places then none
  else
    let digits :=
      match cs.take places with
      | '+' :: ds => ds
      | ds => ds
    (codePoint? digits).map (·, cs.drop places)

/-- The character of seven bits that some digits stand for; higher bits than eight do not count. -/
def byte? (base : Nat) (digits : List Char) : Option Nat :=
  ((Text.digitsIn? base digits).map (· % 256)).filter (· < 128)

/-- As many digits of a base as there are, up to a number of places. -/
def digitsAhead (base places : Nat) (cs : List Char) : List Char :=
  (cs.take places).takeWhile fun c => (Text.digitIn? base c).isSome

/-- The character that an escape stands for, behind its backslash. -/
def escape? : List Char → Option (Nat × List Char)
  | [] => none
  | 'u' :: rest => signedCodePoint? 4 rest
  | 'U' :: rest => signedCodePoint? 8 rest
  | 'x' :: rest =>
    let ds := digitsAhead 16 2 rest
    if ds.isEmpty then some ('x'.toNat, rest) else (byte? 16 ds).map (·, rest.drop ds.length)
  | c :: rest =>
    let ds := digitsAhead 8 3 (c :: rest)
    if ds.isEmpty then some (c.toNat, rest) else (byte? 8 ds).map (·, (c :: rest).drop ds.length)

/-- A text with escapes, behind its first quote. No escape may stand for the character zero. -/
def skipEscaped : Nat → List Char → Option (List Char)
  | 0, _ => none
  | _ + 1, [] => none
  | size + 1, '\'' :: '\'' :: rest => skipEscaped size rest
  | _ + 1, '\'' :: rest => some rest
  | size + 1, '\\' :: rest =>
    match escape? rest with
    | some (n, rest) => if n = 0 then none else skipEscaped size rest
    | none => none
  | size + 1, _ :: rest => skipEscaped size rest

/-- What is left behind so many digits of base sixteen that are the number of a character. -/
def skipCodePoint (places : Nat) (cs : List Char) : Option (List Char) :=
  if cs.length < places then none else (codePoint? (cs.take places)).map fun _ => cs.drop places

/-- A text with the numbers of characters behind backslashes, behind its first quote. -/
def skipNumbered : Nat → List Char → Option (List Char)
  | 0, _ => none
  | _ + 1, [] => none
  | size + 1, '\'' :: '\'' :: rest => skipNumbered size rest
  | _ + 1, '\'' :: rest => some rest
  | size + 1, '\\' :: '\\' :: rest => skipNumbered size rest
  | size + 1, '\\' :: '+' :: rest => (skipCodePoint 6 rest).bind (skipNumbered size)
  | size + 1, '\\' :: rest => (skipCodePoint 4 rest).bind (skipNumbered size)
  | size + 1, _ :: rest => skipNumbered size rest

/-! ## Texts with a letter in front -/

/-- The texts that a letter in front of a quote can announce. -/
inductive TextKind where
  /-- Bytes, or text in the characters of a nation. -/
  | simple
  /-- Digits of base sixteen. -/
  | digits
  | raw
  | escaped
  | numbered
  deriving DecidableEq, Repr

/-- The kind of text behind a letter, the quote that starts it, and what follows that quote. -/
def announced? (letter : Char) (rest : List Char) : Option (TextKind × Char × List Char) :=
  match letter.toUpper, rest with
  | 'N', '\'' :: rest => some (.simple, '\'', rest)
  | 'B', '\'' :: rest => some (.simple, '\'', rest)
  | 'B', '"' :: rest => some (.simple, '"', rest)
  | 'R', '\'' :: rest => some (.raw, '\'', rest)
  | 'R', '"' :: rest => some (.raw, '"', rest)
  | 'X', '\'' :: rest => some (.digits, '\'', rest)
  | 'E', '\'' :: rest => some (.escaped, '\'', rest)
  | 'U', '&' :: '\'' :: rest => some (.numbered, '\'', rest)
  | _, _ => none

/-- What is left behind a text of a kind, behind its first quote. -/
def skipText (kind : TextKind) (quote : Char) (cs : List Char) : Option (List Char) :=
  match kind with
  | .simple => skipQuoted quote cs
  | .digits => skipHidden quote cs
  | .raw => skipRaw quote cs
  | .escaped => skipEscaped (cs.length + 1) cs
  | .numbered => skipNumbered (cs.length + 1) cs

end TableQuery.QueryText
