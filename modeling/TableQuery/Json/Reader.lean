import TableQuery.Json.Basic
import TableQuery.Text.Numeral

/-!
# Reading JSON

A reader for the whole of the data format. Values may nest to a given depth and no deeper. A number
that is not whole, or too large for a word, is read as a floating-point number: its first digits, as
many as fit into a word of 64 bits, are scaled by a power of ten. Values that nobody asks for can be
passed over, and then need only have the form of values. Loops run on a `size` that is more than the
number of characters left.
-/

namespace TableQuery.Json

/-- What a reader finds in front of a text, and what is left behind it. -/
abbrev Reads (α : Type) : Type := Option (α × List Char)

/-- The blanks of the data format. -/
def isSpace (c : Char) : Bool :=
  c == ' ' || c == '\n' || c == '\r' || c == '\t'

/-- What comes after blanks. -/
def skipSpace (cs : List Char) : List Char :=
  cs.dropWhile isSpace

/-- Four hexadecimal digits. -/
def readHex4 : List Char → Reads Nat
  | a :: b :: c :: d :: rest =>
    match Text.digitIn? 16 a, Text.digitIn? 16 b, Text.digitIn? 16 c, Text.digitIn? 16 d with
    | some a, some b, some c, some d => some (((a * 16 + b) * 16 + c) * 16 + d, rest)
    | _, _, _, _ => none
  | _ => none

/-- The character of a `\u` escape, which may take a second escape for its other half. -/
def readUnicode (cs : List Char) : Reads Char :=
  match readHex4 cs with
  | none => none
  | some (n, rest) =>
    if 0xD800 ≤ n ∧ n < 0xDC00 then
      match rest with
      | '\\' :: 'u' :: rest =>
        match readHex4 rest with
        | some (m, rest) =>
          if 0xDC00 ≤ m ∧ m < 0xE000 then
            some (Char.ofNat (0x10000 + (n - 0xD800) * 0x400 + (m - 0xDC00)), rest)
          else none
        | none => none
      | _ => none
    else if 0xDC00 ≤ n ∧ n < 0xE000 then none
    else some (Char.ofNat n, rest)

/-- The character that a letter after a backslash stands for. -/
def simpleEscape? (c : Char) : Option Char :=
  if c = '"' then some '"'
  else if c = '\\' then some '\\'
  else if c = '/' then some '/'
  else if c = 'b' then some '\x08'
  else if c = 'f' then some '\x0c'
  else if c = 'n' then some '\n'
  else if c = 'r' then some '\r'
  else if c = 't' then some '\t'
  else none

/-- One character of a quoted text. -/
def readChar : List Char → Reads Char
  | [] => none
  | '\\' :: 'u' :: rest => readUnicode rest
  | '\\' :: c :: rest => (simpleEscape? c).map (·, rest)
  | c :: rest => if c = '\\' ∨ c.toNat < 0x20 then none else some (c, rest)

/-- The characters of a quoted text up to the quote that ends it. -/
def readChars : Nat → List Char → Reads (List Char)
  | 0, _ => none
  | _ + 1, [] => none
  | fuel + 1, c :: rest =>
    if c = '"' then some ([], rest)
    else
      match readChar (c :: rest) with
      | none => none
      | some (x, rest) => (readChars fuel rest).map fun (xs, rest) => (x :: xs, rest)

/-- A quoted text, behind its opening quote. -/
def readString (size : Nat) (cs : List Char) : Reads String :=
  (readChars size cs).map fun (xs, rest) => (String.ofList xs, rest)

/-- As many leading digits as fit into a word, continuing from a number, and the digits left. -/
def takeWord (n : Nat) : List Char → Nat × List Char
  | [] => (n, [])
  | c :: rest =>
    let next := 10 * n + (c.toNat - 48)
    if Word.greatest 64 < next then (n, c :: rest) else takeWord next rest

/-- Scales by a power of ten in steps that are themselves rounded; `none` if the result is too
large. -/
def scaleFloat : Nat → Binary64 → Int → Option Binary64
  | 0, x, _ => some x
  | fuel + 1, x, e =>
    if e.natAbs ≤ 308 then
      let power := Binary64.ofDecimal false 1 e.natAbs
      if 0 ≤ e then
        let y := x.mul power
        if y.isFinite then some y else none
      else some (x.div power)
    else if x.same (Binary64.zero false) then some x
    else if 0 ≤ e then none
    else scaleFloat fuel (x.div (Binary64.ofDecimal false 1 308)) (e + 308)

/-- The number with a sign, digits before and after the point, and a power of ten. Digits before the
point that do not fit into a word raise the power; those behind it are taken while they fit. -/
def floatOf (negative : Bool) (whole fraction : List Char) (power : Int) : Option Binary64 :=
  let (n, dropped) := takeWord 0 whole
  let (n, unread) := takeWord n fraction
  let e := power + dropped.length - ((fraction.length - unread.length : Nat) : Int)
  if n = 0 then some (Binary64.zero negative)
  else scaleFloat 400 (Binary64.ofRatio negative n 1) (max e (-100000))

/-- Digits, of which there is at least one. -/
def readDigits (cs : List Char) : Reads (List Char) :=
  let ds := cs.takeWhile Char.isDigit
  if ds.isEmpty then none else some (ds, cs.dropWhile Char.isDigit)

/-- The digits after a point, or none where there is no point. -/
def readFraction : List Char → Reads (Option (List Char))
  | '.' :: rest => (readDigits rest).map fun (ds, rest) => (some ds, rest)
  | cs => some (none, cs)

def digitsNat (ds : List Char) : Nat :=
  ds.foldl (fun n c => 10 * n + (c.toNat - 48)) 0

/-- The power of ten, or none where there is no `e`. -/
def readExponent : List Char → Reads (Option Int)
  | [] => some (none, [])
  | c :: rest =>
    if c == 'e' || c == 'E' then
      let (negative, ds) :=
        match rest with
        | '-' :: ds => (true, ds)
        | '+' :: ds => (false, ds)
        | ds => (false, ds)
      (readDigits ds).map fun (ds, rest) =>
        let n := digitsNat ds
        (some (if negative then -(n : Int) else n), rest)
    else some (none, c :: rest)

/-- The whole number with a sign if it fits into a word. -/
def wholeOf? (negative : Bool) (n : Nat) : Option Int :=
  if negative then (if 0 < n ∧ n ≤ Word.count 63 then some (-(n : Int)) else none)
  else if n ≤ Word.greatest 64 then some n
  else none

/-- A number without its sign. -/
def readUnsigned (negative : Bool) (cs : List Char) : Reads JsonNumber :=
  match readDigits cs with
  | none => none
  | some (whole, rest) =>
    if whole.length != 1 && whole.head? == some '0' then none
    else
      match readFraction rest with
      | none => none
      | some (fraction, rest) =>
        match readExponent rest with
        | none => none
        | some (power, rest) =>
          match fraction, power, wholeOf? negative (digitsNat whole) with
          | none, none, some n => some (.whole n, rest)
          | _, _, _ =>
            (floatOf negative whole (fraction.getD []) (power.getD 0)).map fun x =>
              (.float x, rest)

def readNumber : List Char → Reads JsonNumber
  | '-' :: rest => readUnsigned true rest
  | cs => readUnsigned false cs

/-! ## Form without content -/

/-- What is left behind one character of a quoted text, where halves of a character need not come in
pairs. -/
def passChar : List Char → Option (List Char)
  | [] => none
  | '\\' :: 'u' :: rest => (readHex4 rest).map (·.2)
  | '\\' :: c :: rest => (simpleEscape? c).map fun _ => rest
  | c :: rest => if c = '\\' ∨ c.toNat < 0x20 then none else some rest

/-- What is left behind the quote that ends a quoted text. -/
def passString : Nat → List Char → Option (List Char)
  | 0, _ => none
  | _ + 1, [] => none
  | size + 1, c :: rest =>
    if c = '"' then some rest else (passChar (c :: rest)).bind (passString size)

/-- What is left behind a number without its sign, however large. -/
def passUnsigned (cs : List Char) : Option (List Char) :=
  match readDigits cs with
  | none => none
  | some (whole, rest) =>
    if whole.length != 1 && whole.head? == some '0' then none
    else (readFraction rest).bind fun (_, rest) => (readExponent rest).map (·.2)

/-- What is left behind a number, however large. -/
def passNumber : List Char → Option (List Char)
  | '-' :: rest => passUnsigned rest
  | cs => passUnsigned cs

/-! ## Values -/

/-- How the texts, behind their opening quotes, and the numbers in a value are read. -/
structure Leaves where
  string : List Char → Reads String
  number : List Char → Reads JsonNumber

/-- Texts and numbers are read for what they are. -/
def Leaves.exact (size : Nat) : Leaves :=
  ⟨readString size, readNumber⟩

/-- Texts and numbers are passed over. -/
def Leaves.passed (size : Nat) : Leaves :=
  ⟨fun cs => (passString size cs).map ("", ·), fun cs => (passNumber cs).map (.whole 0, ·)⟩

/-- A value that holds no other. -/
def readScalar (leaves : Leaves) : List Char → Reads Json
  | 'n' :: 'u' :: 'l' :: 'l' :: rest => some (.null, rest)
  | 't' :: 'r' :: 'u' :: 'e' :: rest => some (.bool true, rest)
  | 'f' :: 'a' :: 'l' :: 's' :: 'e' :: rest => some (.bool false, rest)
  | '"' :: rest => (leaves.string rest).map fun (s, rest) => (.string s, rest)
  | cs => (leaves.number cs).map fun (n, rest) => (.number n, rest)

/-- The items after the first, up to the bracket that closes the array. -/
def readMoreItems (value : List Char → Reads Json) : Nat → List Char → Reads (List Json)
  | 0, _ => none
  | fuel + 1, cs =>
    match skipSpace cs with
    | ']' :: rest => some ([], rest)
    | ',' :: rest =>
      match value rest with
      | none => none
      | some (x, rest) => (readMoreItems value fuel rest).map fun (xs, rest) => (x :: xs, rest)
    | _ => none

/-- The items of an array, behind its opening bracket. -/
def readItems (size : Nat) (value : List Char → Reads Json) (cs : List Char) : Reads (List Json) :=
  match skipSpace cs with
  | ']' :: rest => some ([], rest)
  | cs =>
    match value cs with
    | none => none
    | some (x, rest) =>
      (readMoreItems value size rest).map fun (xs, rest) => (x :: xs, rest)

/-- A name, a colon and a value, which may be read in a way that depends on the name. -/
def readMember (leaves : Leaves) (value : String → List Char → Reads Json) (cs : List Char) :
    Reads (String × Json) :=
  match skipSpace cs with
  | '"' :: rest =>
    match leaves.string rest with
    | none => none
    | some (name, rest) =>
      match skipSpace rest with
      | ':' :: rest => (value name rest).map fun (x, rest) => ((name, x), rest)
      | _ => none
  | _ => none

/-- The members after the first, up to the brace that closes the object. -/
def readMoreMembers (leaves : Leaves) (value : String → List Char → Reads Json) :
    Nat → List Char → Reads (List (String × Json))
  | 0, _ => none
  | fuel + 1, cs =>
    match skipSpace cs with
    | '\x7d' :: rest => some ([], rest)
    | ',' :: rest =>
      match readMember leaves value rest with
      | none => none
      | some (m, rest) =>
        (readMoreMembers leaves value fuel rest).map fun (ms, rest) => (m :: ms, rest)
    | _ => none

/-- The members of an object, behind its opening brace. -/
def readMembers (size : Nat) (leaves : Leaves) (value : String → List Char → Reads Json)
    (cs : List Char) : Reads (List (String × Json)) :=
  match skipSpace cs with
  | '\x7d' :: rest => some ([], rest)
  | cs =>
    match readMember leaves value cs with
    | none => none
    | some (m, rest) =>
      (readMoreMembers leaves value size rest).map fun (ms, rest) => (m :: ms, rest)

/-- A value that may hold others down to a depth. -/
def readValue (size : Nat) (leaves : Leaves) : Nat → List Char → Reads Json
  | 0, cs => readScalar leaves (skipSpace cs)
  | depth + 1, cs =>
    match skipSpace cs with
    | '[' :: rest =>
      (readItems size (readValue size leaves depth) rest).map fun (items, rest) =>
        (.array items, rest)
    | '\x7b' :: rest =>
      (readMembers size leaves (fun _ => readValue size leaves depth) rest).map
        fun (members, rest) => (.object members, rest)
    | cs => readScalar leaves cs

/-- How deep values may nest in a document. -/
def maxDepth : Nat := 127

/-- What was read, if nothing but blanks is left. -/
def whole? : Reads Json → Option Json
  | some (value, rest) => if (skipSpace rest).isEmpty then some value else none
  | none => none

/-- Reads a text that holds one value and nothing else but blanks. -/
def readWithin? (depth : Nat) (text : String) : Option Json :=
  let cs := text.toList
  let size := cs.length + 1
  whole? (readValue size (.exact size) depth cs)

/-- Reads a document. -/
def read? (text : String) : Option Json :=
  readWithin? maxDepth text

/-- Reads a document of which, if it is an object, only the members with known names are wanted. The
others are passed over, however deep they are. -/
def readKnown? (names : List String) (text : String) : Option Json :=
  let cs := text.toList
  let size := cs.length + 1
  let member (name : String) : List Char → Reads Json :=
    if names.contains name then readValue size (.exact size) (maxDepth - 1)
    else readValue size (.passed size) size
  match skipSpace cs with
  | '\x7b' :: rest =>
    whole? ((readMembers size (.exact size) member rest).map fun (members, rest) =>
      (.object members, rest))
  | _ => read? text

end TableQuery.Json
