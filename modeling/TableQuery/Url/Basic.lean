import TableQuery.Url.Address
import TableQuery.Url.Label

/-!
# Absolute addresses of resources

Which texts are absolute addresses: a scheme, and behind its colon either an authority, that is a
host with an optional user and port, or anything at all. Schemes of the web have an authority in any
case, and take a backslash for a slash.
-/

namespace TableQuery.Url

/-! ## Domain names

Which texts are hosts for the schemes of the web: domain names in any script, or numeric addresses.
Bytes may be written as escapes behind percent signs.
-/

/-- Whether the character may not stand in any host. -/
def isForbidden (c : Char) : Bool :=
  ['\x00', '\t', '\n', '\r', ' ', '#', '/', ':', '<', '>', '?', '@', '[', '\\', ']', '^',
    '|'].contains c

/-- Whether the character may not stand in a host of the web. -/
def isForbiddenInDomain (c : Char) : Bool :=
  isForbidden c || c == '%' || c.toNat ≤ 0x1F || c.toNat == 0x7F

/-- The bytes of a text, where two digits behind a percent sign are a byte. -/
def bytes : List Char → List UInt8
  | [] => []
  | '%' :: a :: b :: rest =>
    match Text.digitIn? 16 a, Text.digitIn? 16 b with
    | some m, some n => UInt8.ofNat (16 * m + n) :: bytes rest
    | _, _ => '%'.toUInt8 :: bytes (a :: b :: rest)
  | c :: rest => String.utf8EncodeChar c ++ bytes rest

/-- The characters of a text, where escaped bytes have to make up characters. -/
def unescaped? (cs : List Char) : Option (List Char) :=
  (String.fromUTF8? (bytes cs).toByteArray).map String.toList

/-- The labels of a domain name, in the form in which names are compared. -/
def labels? (cs : List Char) : Option (List (List Char)) :=
  match mapped? cs with
  | none => none
  | some cs => if cs.any isForbiddenInDomain then none else (cs.splitOn '.').mapM readLabel?

/-- Whether the text is a domain name or a numeric address. -/
def isDomain (host : List Char) : Bool :=
  match (unescaped? host).bind labels? with
  | none => false
  | some labels =>
    let name := List.intercalate ['.'] labels
    !name.isEmpty && areSound labels && (!endsInNumber name || isAddress4 name)

/-! ## Addresses -/

/-- The kinds of schemes. -/
inductive SchemeKind where
  /-- A scheme of the web. -/
  | web
  | file
  | other
  deriving DecidableEq, Repr

namespace SchemeKind

/-- The kind of a scheme in small letters. -/
def ofName (name : String) : SchemeKind :=
  if name == "file" then .file
  else if ["http", "https", "ws", "wss", "ftp"].contains name then .web
  else .other

/-- Whether the scheme takes a backslash for a slash. -/
def isSpecial (k : SchemeKind) : Bool :=
  k != .other

def endsAuthority (k : SchemeKind) (c : Char) : Bool :=
  c == '/' || c == '?' || c == '#' || (k.isSpecial && c == '\\')

end SchemeKind

/-- The characters that count: not those at either end up to the space, and no tabs or line ends. -/
def significant (s : String) : List Char :=
  let kept := s.toList.dropWhile (·.toNat ≤ 0x20)
  let kept := (kept.reverse.dropWhile (·.toNat ≤ 0x20)).reverse
  kept.filter fun c => !(c == '\t' || c == '\n' || c == '\r')

/-- Whether the character may stand in a scheme behind its first letter. -/
def isSchemeChar (c : Char) : Bool :=
  c.isAlphanum || c == '+' || c == '-' || c == '.'

/-- The scheme in small letters, and what comes behind its colon. -/
def scheme? (cs : List Char) : Option (String × List Char) :=
  let name := cs.takeWhile isSchemeChar
  match name.head?, cs.dropWhile isSchemeChar with
  | some c, ':' :: rest =>
    if c.isAlpha then some (String.ofList (name.map Char.toLower), rest) else none
  | _, _ => none

/-- Whether the host, which starts with a bracket, is an address in brackets. -/
def isBracketed (host : List Char) : Bool :=
  host.getLast? == some ']' && isAddress6 ((host.drop 1).dropLast)

/-- Whether the text is a host for a scheme of the kind. -/
def isHost (k : SchemeKind) (host : List Char) : Bool :=
  if host.head? == some '[' then isBracketed host
  else if k.isSpecial then isDomain host
  else !host.any isForbidden

/-- The host in front of a port, where a colon in brackets belongs to the host. -/
def splitHost (inBrackets : Bool) : List Char → List Char × List Char
  | [] => ([], [])
  | c :: rest =>
    if c == ':' && !inBrackets then ([], c :: rest)
    else
      let inBrackets := if c == '[' then true else if c == ']' then false else inBrackets
      let (host, after) := splitHost inBrackets rest
      (c :: host, after)

/-- Whether what comes behind a host is nothing or a port. A port may be left out behind its colon,
and ends at a backslash too. -/
def isPort : List Char → Bool
  | [] => true
  | ':' :: rest =>
    let ds := rest.takeWhile Char.isDigit
    (rest.dropWhile Char.isDigit).head?.all (· == '\\')
      && (ds.isEmpty || (Text.digitsValue? ds).any (· < Word.count 16))
  | _ => false

/-- What comes behind the last at-sign, and what stands before it if there is one. -/
def splitUser (authority : List Char) : Option (List Char) × List Char :=
  if authority.contains '@' then
    let host := (authority.reverse.takeWhile (· != '@')).reverse
    (some (authority.take (authority.length - host.length - 1)), host)
  else (none, authority)

/-- Whether a user with a colon and a password names anyone. -/
def namesUser (user : List Char) : Bool :=
  !user.isEmpty && user != [':']

/-- Whether the text is an authority for a scheme of the kind; `more` tells whether anything follows
it. The host may be empty where the scheme is none of the web, but then there is no user and no
port, nor a lone at-sign with something behind it. -/
def isAuthority (k : SchemeKind) (authority : List Char) (more : Bool) : Bool :=
  let (user, rest) := splitUser authority
  let (host, port) := splitHost false rest
  if host.isEmpty then
    k == .other && port.isEmpty && !user.any namesUser && !(user == some [] && more)
  else isHost k host && isPort port

/-- Whether the text is a host of a file, which may be missing or a drive. -/
def isFileHost (host : List Char) : Bool :=
  match host with
  | [] => true
  | [c, d] => (c.isAlpha && (d == ':' || d == '|')) || isHost .file host
  | _ => isHost .file host

/-- Whether what comes behind the slashes of a scheme starts with an authority. -/
def startsWithAuthority (k : SchemeKind) (cs : List Char) : Bool :=
  isAuthority k (cs.takeWhile fun c => !k.endsAuthority c) (cs.any k.endsAuthority)

/-- Whether what comes behind the colon of a scheme fits the kind of the scheme. -/
def fits : SchemeKind → List Char → Bool
  | .web, rest => startsWithAuthority .web (rest.dropWhile fun c => c == '/' || c == '\\')
  | .file, a :: b :: rest =>
    !((a == '/' || a == '\\') && (b == '/' || b == '\\'))
      || isFileHost (rest.takeWhile fun c => !SchemeKind.file.endsAuthority c)
  | .other, '/' :: '/' :: rest => startsWithAuthority .other rest
  | _, _ => true

/-- Whether the text is an absolute address. -/
def isAbsolute (s : String) : Bool :=
  match scheme? (significant s) with
  | some (name, rest) => fits (SchemeKind.ofName name) rest
  | none => false

end TableQuery.Url
