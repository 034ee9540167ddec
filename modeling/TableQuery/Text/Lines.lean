/-!
# Lines

Splitting text into lines, and moving every line of a text to the right.
-/

namespace TableQuery.Text

/-- The lines of a text. A line ends at a line feed; a carriage return just before the feed belongs
to the line break, and nothing after the last feed is no line. -/
def splitLines : List Char → List (List Char)
  | [] => []
  | '\n' :: rest => [] :: splitLines rest
  | '\r' :: '\n' :: rest => [] :: splitLines rest
  | c :: rest =>
    match splitLines rest with
    | [] => [[c]]
    | line :: more => (c :: line) :: more

/-- The lines of a text, as texts. -/
def lines (s : String) : List String :=
  (splitLines s.toList).map String.ofList

/-- A run of spaces. -/
def spaces (n : Nat) : String :=
  String.ofList (List.replicate n ' ')

/-- The text with every line moved right by `width` spaces. -/
def indent (width : Nat) (s : String) : String :=
  "\n".intercalate ((lines s).map (spaces width ++ ·))

/-- The characters after the last line feed, or none if there is no line feed. -/
def afterLastBreak? (cs : List Char) : Option (List Char) :=
  if cs.contains '\n' then some (cs.reverse.takeWhile (· != '\n')).reverse else none

end TableQuery.Text
