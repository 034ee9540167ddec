import TableQuery.Text.CharRange

/-!
# Blank characters

The characters that count as white space in every script, and trimming text at both ends.
-/

namespace TableQuery.Text

/-- White space of every script. -/
def blanks : List CharRange :=
  [(0x9, 0xD), (0x20, 0x20), (0x85, 0x85), (0xA0, 0xA0), (0x1680, 0x1680), (0x2000, 0x200A),
   (0x2028, 0x2029), (0x202F, 0x202F), (0x205F, 0x205F), (0x3000, 0x3000)]

/-- Whether the character is white space. -/
def isBlank (c : Char) : Bool :=
  CharRange.anyCovers blanks c

/-- The characters without the blank ones in front. -/
def trimStartChars (cs : List Char) : List Char :=
  cs.dropWhile isBlank

/-- The characters without the blank ones at the end. -/
def trimEndChars (cs : List Char) : List Char :=
  (cs.reverse.dropWhile isBlank).reverse

/-- The text without blank characters at either end. -/
def trim (s : String) : String :=
  String.ofList (trimEndChars (trimStartChars s.toList))

end TableQuery.Text
