import TableQuery.Yaml.Block
import TableQuery.Yaml.Plain
import TableQuery.Yaml.Quoted
import TableQuery.Yaml.Tag

/-!
# The layout of a document

Reads the tokens of a document from its text: the signs and words that make it up, where indentation
has been turned into tokens that open and close lists and tables. What comes before a colon turns
out to be a key only when the colon is reached: the tokens in front of a key are put in afterwards.
In brackets indentation does not count, but nothing may be indented less than what the brackets
belong to.
-/

namespace TableQuery.Yaml

/-- A token of a document. -/
inductive Token where
  | directive (d : Directive)
  | documentStart
  | documentEnd
  /-- Opens a list whose items are indented. -/
  | blockList
  /-- Opens a table whose entries are indented. -/
  | blockTable
  /-- Closes what indentation has opened. -/
  | blockEnd
  /-- The dash in front of an item. -/
  | item
  /-- Stands in front of a key, whether or not a sign announces it. -/
  | key
  /-- The colon in front of a value. -/
  | value
  | openList
  | closeList
  | openTable
  | closeTable
  | comma
  | anchor (name : String)
  | alias (name : String)
  | tag (t : Tag)
  /-- A scalar; a plain one may stand for something else than text. -/
  | scalar (isPlain : Bool) (text : String)
  deriving DecidableEq, Repr

/-- An indentation that another one is nested in, with what the nested one was opened for. -/
structure Indent where
  /-- The column of the outer indentation. -/
  outer : Int
  /-- Whether a list or a table has been opened, and not only room for a value behind a colon. -/
  isBlock : Bool
  deriving DecidableEq, Repr

/-- A place where a key may have started. -/
structure KeyPlace where
  /-- Whether it still can be a key. -/
  possible : Bool
  /-- Whether nothing but a key may stand there. -/
  required : Bool
  /-- The number of tokens in front of it. -/
  number : Nat
  index : Nat
  line : Nat
  column : Nat
  deriving DecidableEq, Repr

def KeyPlace.none : KeyPlace := ⟨false, false, 0, 0, 0, 0⟩

/-- How far a document has been read. -/
structure Layout where
  cursor : Cursor
  tokens : Array Token
  /-- The column of the current indentation, which is -1 outside of all lists and tables. -/
  indent : Int
  indents : List Indent
  /-- The last place for a key, in each of the brackets that are open and outside of them. -/
  keys : List KeyPlace
  /-- Whether a key may start here. -/
  keyAllowed : Bool
  /-- Where a colon counts as one although a word follows it at once. -/
  adjacent : Nat
  /-- A table in brackets has been opened. -/
  inTable : Bool
  /-- An entry without braces has been opened in a list in brackets. -/
  inEntry : Bool

namespace Layout

/-- The start of a document. -/
def start (text : String) : Layout :=
  ⟨Cursor.start text, #[], -1, [], [.none], true, 0, false, false⟩

/-- How many brackets are open. -/
def depth (s : Layout) : Nat :=
  s.keys.length - 1

/-- Whether brackets are open. -/
def inFlow (s : Layout) : Bool :=
  0 < s.depth

/-- The greatest number of open brackets. -/
def maxDepth : Nat := 255

/-- Adds a token. -/
def push (s : Layout) (t : Token) : Layout :=
  { s with tokens := s.tokens.push t }

/-- Puts a token in front of all but some of the first tokens. -/
def insert (s : Layout) (number : Nat) (t : Token) : Layout :=
  { s with tokens := s.tokens.insertIdxIfInBounds number t }

/-- The same state at another place. -/
def moveTo (s : Layout) (c : Cursor) : Layout :=
  { s with cursor := c }

/-- Moves behind blanks and a comment on the line. -/
def skipLineEnd? (s : Layout) : Option Layout :=
  s.cursor.skipLineEnd?.map s.moveTo

/-! ## Indentation -/

/-- Closes the indentations behind a column. -/
def unroll (column : Int) : List Indent → Layout → Layout
  | [], s => { s with indents := [] }
  | i :: rest, s =>
    if column < s.indent then
      let s := { s with indent := i.outer }
      unroll column rest (if i.isBlock then s.push .blockEnd else s)
    else { s with indents := i :: rest }

/-- Closes the indentations behind a column, unless brackets are open. -/
def unrollTo (s : Layout) (column : Int) : Layout :=
  if s.inFlow then s else unroll column s.indents s

/-- Makes room for a value, one column behind what it belongs to. -/
def makeRoom (s : Layout) : Layout :=
  if !s.inFlow && s.indents.head?.any (·.isBlock) then
    { s with indents := ⟨s.indent, false⟩ :: s.indents, indent := s.indent + 1 }
  else s

/-- Gives up room that has been made for a value. -/
def dropRoom (s : Layout) : Layout :=
  let rooms := s.indents.takeWhile fun i => !i.isBlock
  { s with
    indent := (rooms.getLast?.map (·.outer)).getD s.indent
    indents := s.indents.drop rooms.length }

/-- Opens a list or a table at a column if it is indented further than what it stands in. Its token
comes in front of all but the given number of tokens. -/
def openBlock (s : Layout) (column number : Nat) (t : Token) : Layout :=
  if s.inFlow then s
  else
    let s :=
      match s.indents with
      | ⟨outer, false⟩ :: rest =>
        if s.indent ≤ (column : Int) then { s with indent := outer, indents := rest } else s
      | _ => s
    if s.indent < (column : Int) then
      { s.insert number t with indents := ⟨s.indent, true⟩ :: s.indents, indent := column }
    else s

/-! ## Keys -/

/-- Notes that a key may start here. -/
def noteKey (s : Layout) : Layout :=
  if s.keyAllowed then
    let c := s.cursor
    let required := !s.inFlow && s.indent == c.column && s.indents.head?.any (·.isBlock)
    let place := ⟨true, required, s.tokens.size, c.index, c.line, c.column⟩
    { s with keys := place :: s.keys.drop 1 }
  else s

/-- Settles that the last place was no key. -/
def dropKey? (s : Layout) : Option Layout :=
  match s.keys with
  | [] => some s
  | k :: rest =>
    if k.possible && k.required then none
    else some { s with keys := { k with possible := false } :: rest }

/-- Settles that places on earlier lines, or more than 1024 characters back, were no keys. -/
def dropOldKeys? (s : Layout) : Option Layout :=
  if s.inFlow then some s
  else
    let isOld (k : KeyPlace) : Bool :=
      k.possible && (k.line < s.cursor.line || k.index + 1024 < s.cursor.index)
    if s.keys.any fun k => isOld k && k.required then none
    else
      some { s with
        keys := s.keys.map fun k => if isOld k then { k with possible := false } else k }

/-- The state in which a key may start, or may not. -/
def allowKey (s : Layout) (allowed : Bool) : Layout :=
  { s with keyAllowed := allowed }

/-! ## Gaps between tokens -/

/-- Moves to the next token. A tab may not indent anything in a list or a table. -/
def toNextToken? : Nat → Layout → Option Layout
  | 0, s => some s
  | size + 1, s =>
    let c := s.cursor
    if c.peek == '\t' && !s.indents.isEmpty && c.fresh && (c.column : Int) < s.indent then
      match s.skipLineEnd? with
      | some s => if endsLine s.cursor.peek then toNextToken? size s else none
      | none => none
    else if isBlank c.peek then toNextToken? size (s.moveTo c.skipBlanks)
    else if isBreak c.peek then
      toNextToken? size ((s.moveTo c.passBreak).allowKey (s.keyAllowed || !s.inFlow))
    else if c.peek == '#' then toNextToken? size (s.moveTo c.passComment)
    else some s

/-- Moves behind the spaces, comments and line ends that have to follow the sign of a key. -/
def skipBehindKey? : Nat → Bool → Layout → Option Layout
  | 0, _, _ => none
  | size + 1, found, s =>
    let c := s.cursor
    if c.peek == ' ' then skipBehindKey? size true (s.moveTo (c.passBlanks 1))
    else if isBreak c.peek then
      skipBehindKey? size true ((s.moveTo c.passBreak).allowKey (s.keyAllowed || !s.inFlow))
    else if c.peek == '#' then skipBehindKey? size found (s.moveTo c.passComment)
    else if found && c.peek != '\t' then some s
    else none

/-! ## Brackets -/

/-- Opens a bracket. -/
def openFlow? (s : Layout) (t : Token) : Option Layout :=
  let s := s.noteKey.makeRoom
  if s.depth = maxDepth then none
  else
    let s : Layout :=
      { s with
        keys := .none :: s.keys
        keyAllowed := true
        inTable := s.inTable || t == .openTable }
    (s.moveTo (s.cursor.pass 1)).skipLineEnd?.map (·.push t)

/-- Closes an entry without braces. -/
def closeEntry (s : Layout) : Layout :=
  if s.inEntry then { s.push .closeTable with inEntry := false, inTable := false } else s

/-- Closes a bracket. -/
def closeFlow? (s : Layout) (t : Token) : Option Layout :=
  match s.dropKey? with
  | none => none
  | some s =>
    let s := if s.inFlow then { s with keys := s.keys.drop 1 } else s
    let s := (s.allowKey false).closeEntry
    match (s.moveTo (s.cursor.pass 1)).skipLineEnd? with
    | none => none
    | some s =>
      let adjacent := if s.inFlow then s.cursor.index else s.adjacent
      some { s.push t with adjacent }

/-- Passes a comma. -/
def comma? (s : Layout) : Option Layout :=
  match s.dropKey? with
  | none => none
  | some s =>
    let s := (s.allowKey true).closeEntry
    (s.moveTo (s.cursor.pass 1)).skipLineEnd?.map (·.push .comma)

/-! ## Items, keys and values -/

/-- Passes the dash in front of an item. -/
def item? (s : Layout) : Option Layout :=
  if s.inFlow || !s.keyAllowed then none
  else
    let column := s.cursor.column
    let s := s.moveTo (s.cursor.pass 1)
    let s := s.openBlock column s.tokens.size .blockList
    let tabbed := (s.cursor.rest.takeWhile isBlank).contains '\t'
    match s.skipLineEnd? with
    | none => none
    | some s =>
      let c := s.cursor
      if tabbed && c.peek == '-' && endsWord (c.peekAt 1) then none
      else
        let s := if isBreak c.peek || isFlowChar c.peek then s.makeRoom else s
        s.dropKey?.map fun s => (s.allowKey true).push .item

/-- Passes the sign in front of a key. -/
def key? (s : Layout) : Option Layout :=
  let outside := !s.inFlow
  if outside && !s.keyAllowed then none
  else
    let s := s.openBlock s.cursor.column s.tokens.size .blockTable
    let s := { s with inTable := s.inTable || !outside }
    match s.dropKey? with
    | none => none
    | some s =>
      let s := (s.allowKey outside).moveTo (s.cursor.pass 1)
      (skipBehindKey? (s.cursor.rest.length + 1) false s).map (·.push .key)

/-- Passes the colon in front of a value whose key is the last place for one. -/
def valueOf? (s : Layout) (k : KeyPlace) (line : Nat) : Option Layout :=
  if s.inEntry && k.line < line then none
  else
    let s := s.insert k.number .key
    let s := if s.inEntry then s.insert k.number .openTable else s
    let s := (s.openBlock k.column k.number .blockTable).makeRoom
    some { s with keys := { k with possible := false } :: s.keys.drop 1, keyAllowed := false }

/-- Passes the colon in front of a value whose key is missing or has a sign. -/
def valueAlone? (s : Layout) (column : Nat) : Option Layout :=
  let s := if s.inEntry then s.push .openTable else s
  if s.inFlow then some (s.allowKey false)
  else if !s.keyAllowed then none
  else some (((s.openBlock column s.tokens.size .blockTable).makeRoom).allowKey true)

/-- Passes the colon in front of a value. -/
def value? (s : Layout) : Option Layout :=
  let c := s.cursor
  let s := { s with inEntry := s.inFlow && !s.inTable, cursor := c.pass 1 }
  let behindTab :=
    if s.cursor.peek == '\t' then
      let spaced := (s.cursor.rest.takeWhile isBlank).contains ' '
      match s.skipLineEnd? with
      | none => none
      | some s =>
        if !spaced && (s.cursor.peek == '-' || isHandleChar s.cursor.peek) then none else some s
    else some s
  match behindTab with
  | none => none
  | some s =>
    let k := s.keys.headD .none
    let s := if k.possible then s.valueOf? k c.line else s.valueAlone? c.column
    s.map (·.push .value)

/-! ## Words -/

/-- Adds the token that a reader finds here. -/
def word? (s : Layout) (reader : Cursor → Option (Token × Cursor)) : Option Layout :=
  let s := s.noteKey.allowKey false
  (reader s.cursor).map fun (t, c) => (s.moveTo c).push t

/-- Adds a plain scalar. A key may start behind one that ends with a line. -/
def plain? (s : Layout) : Option Layout :=
  let s := (s.noteKey.allowKey false).dropRoom
  match Plain.read? s.inFlow (s.indent + 1) s.cursor with
  | none => none
  | some (text, c) => some (((s.moveTo c).allowKey c.fresh).push (.scalar true text))

/-- Adds a quoted scalar. A colon counts as one where it is the next sign behind the scalar. -/
def quoted? (s : Layout) : Option Layout :=
  let s := s.noteKey.allowKey false
  match Quoted.read? s.inFlow s.indent s.cursor with
  | none => none
  | some (text, c) =>
    (toNextToken? (c.rest.length + 1) ((s.moveTo c).push (.scalar false text))).map fun s =>
      { s with adjacent := s.cursor.index }

/-- Adds a block scalar. -/
def block? (s : Layout) : Option Layout :=
  let s := (s.noteKey.allowKey true).dropRoom
  (Block.read? s.indent s.cursor).map fun (text, c) => (s.moveTo c).push (.scalar false text)

/-! ## Documents -/

/-- Closes everything that is open by indentation, at a line that belongs to no document. -/
def closeAll? (s : Layout) : Option Layout :=
  (s.unrollTo (-1)).dropKey?.map (·.allowKey false)

/-- Passes a marker of documents. Nothing but a comment may follow the marker of an end. -/
def marker? (s : Layout) (t : Token) : Option Layout :=
  match s.closeAll? with
  | none => none
  | some s =>
    let s := (s.moveTo (s.cursor.pass 3)).push t
    if t == .documentEnd then
      match s.skipLineEnd? with
      | some s => if endsLine s.cursor.peek then some s else none
      | none => none
    else some s

/-- Adds a directive. -/
def directive? (s : Layout) : Option Layout :=
  match s.closeAll? with
  | none => none
  | some s =>
    (Yaml.directive? s.cursor).map fun (d, c) => (s.moveTo c).push (.directive d)

/-- Ends a text. -/
def finish? (s : Layout) : Option Layout :=
  if s.keys.any fun k => k.possible && k.required then none else some (s.unrollTo (-1))

/-- Adds the token whose first character is here. -/
def token? (s : Layout) : Option Layout :=
  let c := s.cursor
  let next := c.peekAt 1
  if c.column == 0 && c.peek == '%' then s.directive?
  else if c.atMarker '-' then s.marker? .documentStart
  else if c.atMarker '.' then s.marker? .documentEnd
  else if (c.column : Int) < s.indent then none
  else if c.peek == '[' then s.openFlow? .openList
  else if c.peek == '\x7b' then s.openFlow? .openTable
  else if c.peek == ']' then s.closeFlow? .closeList
  else if c.peek == '\x7d' then s.closeFlow? .closeTable
  else if c.peek == ',' then s.comma?
  else if c.peek == '-' && endsWord next then s.item?
  else if c.peek == '?' && endsWord next then s.key?
  else if c.peek == ':'
      && (endsWord next || (s.inFlow && (isFlowChar next || c.index == s.adjacent))) then s.value?
  else if c.peek == '*' then
    s.word? fun c => (anchorName? (c.pass 1)).map fun (n, c) => (.alias n, c)
  else if c.peek == '&' then
    s.word? fun c => (anchorName? (c.pass 1)).map fun (n, c) => (.anchor n, c)
  else if c.peek == '!' then s.word? fun c => (tag? s.inFlow c).map fun (t, c) => (.tag t, c)
  else if (c.peek == '|' || c.peek == '>') && !s.inFlow then s.block?
  else if c.peek == '\'' || c.peek == '"' then s.quoted?
  else if c.peek == '%' || c.peek == '@' || c.peek == '\x60' then none
  else s.plain?

/-- Adds the tokens up to the end of the text. -/
def finished? : Nat → Layout → Option Layout
  | 0, _ => none
  | size + 1, s =>
    match toNextToken? (s.cursor.rest.length + 1) s with
    | none => none
    | some s =>
      match s.dropOldKeys? with
      | none => none
      | some s =>
        let s := s.unrollTo s.cursor.column
        if s.cursor.atEnd then s.finish? else s.token?.bind (finished? size)

end Layout

def tokens? (text : String) : Option (List Token) :=
  (Layout.finished? (text.length + 2) (Layout.start text)).map (·.tokens.toList)

end TableQuery.Yaml
