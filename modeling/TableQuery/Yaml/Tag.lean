import TableQuery.Text.Numeral
import TableQuery.Yaml.Cursor

/-!
# Tags and directives

A tag in front of a value names its type: by a handle and a suffix, or in full between angle
brackets. Directives at the head of a document say what handles stand for. Characters of a tag may
be written as escapes of bytes.
-/

namespace TableQuery.Yaml

/-- A tag as it is written. -/
structure Tag where
  handle : String
  suffix : String
  deriving DecidableEq, Repr

/-- A line at the head of a document. -/
inductive Directive where
  | version
  /-- What a handle of tags stands for. -/
  | handle (name stem : String)
  deriving DecidableEq, Repr

/-! ## Characters -/

/-- Letters, digits and the signs of handles. -/
def isHandleChar (c : Char) : Bool :=
  c.isAlphanum || c == '_' || c == '-'

/-- The characters of addresses. -/
def isUriChar (c : Char) : Bool :=
  (isHandleChar c && c != '_') || "#;/?:@&=+$,_.!~*'()[]%".contains c

/-- The characters of suffixes. -/
def isTagChar (c : Char) : Bool :=
  isUriChar c && !isFlowChar c && c != '!'

/-- The value of two digits of base sixteen behind a percent sign. -/
def escapedByte? (c : Cursor) : Option Nat :=
  if c.peek == '%' then
    match Text.digitIn? 16 (c.peekAt 1), Text.digitIn? 16 (c.peekAt 2) with
    | some m, some n => some (16 * m + n)
    | _, _ => none
  else none

/-- The number of bytes that a character takes, by its first one. -/
def byteCount? (first : Nat) : Option Nat :=
  if first < 0x80 then some 1
  else if first < 0xC0 then none
  else if first < 0xE0 then some 2
  else if first < 0xF0 then some 3
  else if first < 0xF8 then some 4
  else none

/-- Joins so many further escaped bytes to a number. -/
def joinBytes? : Nat → Nat → Cursor → Option (Nat × Cursor)
  | 0, n, c => some (n, c)
  | count + 1, n, c =>
    match escapedByte? c with
    | some b => if b / 64 = 2 then joinBytes? count (256 * n + b) (c.pass 3) else none
    | none => none

/-- The character that escaped bytes stand for: the one whose number the bytes make up. -/
def escapedChar? (c : Cursor) : Option (Char × Cursor) :=
  match escapedByte? c with
  | none => none
  | some first =>
    match byteCount? first with
    | none => none
    | some count =>
      match joinBytes? (count - 1) first (c.pass 3) with
      | some (n, c) => if n.isValidChar then some (Char.ofNat n, c) else none
      | none => none

/-- The characters of a class, escapes resolved. -/
def tagText? (allowed : Char → Bool) : Nat → Cursor → Option (List Char × Cursor)
  | 0, c => some ([], c)
  | size + 1, c =>
    if c.atEnd || !allowed c.peek then some ([], c)
    else if c.peek == '%' then
      match escapedChar? c with
      | some (x, c) => (tagText? allowed size c).map fun (xs, c) => (x :: xs, c)
      | none => none
    else (tagText? allowed size (c.pass 1)).map fun (xs, next) => (c.peek :: xs, next)

/-! ## Tags -/

/-- What starts with an exclamation mark: the mark, a name, and a second mark if there is one. -/
def handle? (c : Cursor) : Option (List Char × Cursor) :=
  if c.peek == '!' then
    let (name, c) := (c.pass 1).span isHandleChar
    if c.peek == '!' then some ('!' :: name ++ ['!'], c.pass 1) else some ('!' :: name, c)
  else none

/-- A tag in full, behind its mark and bracket. -/
def verbatimTag? (c : Cursor) : Option (Tag × Cursor) :=
  match tagText? isUriChar c.rest.length c with
  | some (text, c) => if c.peek == '>' then some (⟨"", String.ofList text⟩, c.pass 1) else none
  | none => none

/-- A tag by a handle and a suffix. Without a second mark the handle is the mark itself, and a mark
by itself is the suffix. -/
def shorthandTag? (c : Cursor) : Option (Tag × Cursor) :=
  match handle? c with
  | none => none
  | some (handle, c) =>
    match tagText? isTagChar c.rest.length c with
    | none => none
    | some (suffix, c) =>
      if handle.length ≥ 2 && handle.getLast? == some '!' then
        if suffix.isEmpty then none
        else some (⟨String.ofList handle, String.ofList suffix⟩, c)
      else
        let suffix := handle.drop 1 ++ suffix
        if suffix.isEmpty then some (⟨"", "!"⟩, c) else some (⟨"!", String.ofList suffix⟩, c)

/-- A tag, which is a word. -/
def tag? (inFlow : Bool) (c : Cursor) : Option (Tag × Cursor) :=
  let found := if c.peekAt 1 == '<' then verbatimTag? (c.pass 2) else shorthandTag? c
  match found with
  | some (tag, c) =>
    if endsWord c.peek || (inFlow && isFlowChar c.peek) then some (tag, c) else none
  | none => none

/-! ## Directives -/

/-- The first character that a handle may stand for, and the rest of what it stands for. -/
def stem? (c : Cursor) : Option (List Char × Cursor) :=
  if c.peek == '!' then
    (tagText? isUriChar c.rest.length (c.pass 1)).map fun (xs, c) => ('!' :: xs, c)
  else if isTagChar c.peek then tagText? isUriChar c.rest.length c
  else none

/-- What a handle stands for. -/
def handleDirective? (c : Cursor) : Option (Directive × Cursor) :=
  match handle? c.skipBlanks with
  | none => none
  | some (handle, c) =>
    if handle.getLast? != some '!' then none
    else
      match stem? c.skipBlanks with
      | none => none
      | some (stem, c) =>
        if endsWord c.peek then some (.handle (String.ofList handle) (String.ofList stem), c)
        else none

/-- One to nine digits. -/
def versionNumber? (c : Cursor) : Option Cursor :=
  let (ds, c) := c.span Char.isDigit
  if ds.isEmpty || 9 < ds.length then none else some c

/-- Two numbers with a point in between. -/
def versionDirective? (c : Cursor) : Option (Directive × Cursor) :=
  match versionNumber? c.skipBlanks with
  | none => none
  | some c =>
    if c.peek == '.' then (versionNumber? (c.pass 1)).map fun c => (.version, c) else none

/-- A directive with its line. A directive with an unknown name has no content. -/
def directive? (c : Cursor) : Option (Directive × Cursor) :=
  let (name, c) := (c.pass 1).span isHandleChar
  if name.isEmpty || !endsWord c.peek then none
  else
    let found :=
      if name = "YAML".toList then versionDirective? c
      else if name = "TAG".toList then handleDirective? c
      else some (.handle "" "", c.passComment)
    match found with
    | none => none
    | some (directive, c) =>
      match c.skipLineEnd? with
      | none => none
      | some c =>
        if isBreak c.peek then some (directive, c.passBreak)
        else if c.atEnd then some (directive, c)
        else none

/-- The name of an anchor or an alias, behind its sign. -/
def anchorName? (c : Cursor) : Option (String × Cursor) :=
  let isNameChar (x : Char) : Bool :=
    !endsWord x && !isFlowChar x && x != Char.ofNat 0xFEFF
  let (name, c) := c.span isNameChar
  if name.isEmpty then none else some (String.ofList name, c)

end TableQuery.Yaml
