import TableQuery.Yaml.Cursor

/-!
# Gaps between the words of a scalar

Blanks between two words on one line belong to a scalar as they are. A line end counts as a space,
and where empty lines follow it, as so many line ends; the blanks around it do not count.
-/

namespace TableQuery.Yaml

/-- What stands between two words of a scalar. -/
inductive Gap where
  | blanks (cs : List Char)
  /-- Line ends; `folded` tells whether the first one counts, which is not among the `more`. -/
  | lines (folded : Bool) (more : Nat)
  deriving DecidableEq, Repr

namespace Gap

/-- Nothing at all. -/
def none : Gap := .blanks []

/-- What the gap stands for. -/
def text : Gap → List Char
  | .blanks cs => cs
  | .lines true 0 => [' ']
  | .lines _ n => List.replicate n '\n'

/-- The gap with another line end. -/
def withBreak : Gap → Gap
  | .blanks _ => .lines true 0
  | .lines folded n => .lines folded (n + 1)

def withBlank (c : Char) : Gap → Gap
  | .blanks cs => .blanks (cs ++ [c])
  | .lines folded n => .lines folded n

/-- Whether the gap has line ends. -/
def isLines : Gap → Bool
  | .blanks _ => false
  | .lines .. => true

/-- Reads a gap to its end. A tab may not stand in front of the column of the `indent`; where that
is `lenient`, it may if the rest of the line is empty. -/
def read? (lenient : Bool) (indent : Int) : Nat → Gap → Cursor → Option (Gap × Cursor)
  | 0, g, c => some (g, c)
  | size + 1, g, c =>
    if isBlank c.peek then
      if c.peek == '\t' && g.isLines && (c.column : Int) < indent then
        if lenient then
          match c.skipLineEnd? with
          | some c => if endsLine c.peek then read? lenient indent size g c else Option.none
          | Option.none => Option.none
        else Option.none
      else read? lenient indent size (g.withBlank c.peek) (c.passBlanks 1)
    else if isBreak c.peek then read? lenient indent size g.withBreak c.passBreak
    else some (g, c)

end Gap

end TableQuery.Yaml
