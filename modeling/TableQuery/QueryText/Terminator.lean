import TableQuery.Text.Blank

/-!
# Terminators of a query

A query that a user has written may end in a semicolon, which cannot stay when the query becomes
part of another one. Semicolons in front of line comments go as well, wherever they stand; the text
is searched as it is, without regard to quotes.
-/

namespace TableQuery.QueryText

/-- What is left behind the blanks, a semicolon and more blanks in front, if there is one. -/
def afterSemicolon? (cs : List Char) : Option (List Char) :=
  match Text.trimStartChars cs with
  | ';' :: rest => some (Text.trimStartChars rest)
  | _ => none

/-- What is left behind a semicolon and the dashes of a line comment, if they come first. -/
def afterCommentedSemicolon? (cs : List Char) : Option (List Char) :=
  match afterSemicolon? cs with
  | some ('-' :: '-' :: rest) => some rest
  | _ => none

/-- Puts a line end in place of every semicolon in front of a line comment. The `size` is at least
the number of characters. -/
def breakBeforeComments : Nat → List Char → List Char
  | 0, cs => cs
  | _ + 1, [] => []
  | size + 1, c :: cs =>
    match afterCommentedSemicolon? (c :: cs) with
    | some rest => '\n' :: '-' :: '-' :: breakBeforeComments size rest
    | none => c :: breakBeforeComments size cs

/-- The characters without one semicolon at the end and the blanks around it. -/
def dropTerminator (cs : List Char) : List Char :=
  match (Text.trimEndChars cs).getLast? with
  | some ';' => Text.trimEndChars (Text.trimEndChars cs).dropLast
  | _ => cs

/-- The query without blanks at either end, without semicolons in front of line comments, and
without one at the end. -/
def strip (query : String) : String :=
  let cs := (Text.trim query).toList
  String.ofList (dropTerminator (breakBeforeComments cs.length cs))

end TableQuery.QueryText
