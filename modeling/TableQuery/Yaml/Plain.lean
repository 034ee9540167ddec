import TableQuery.Yaml.Gap

/-!
# Scalars without quotes

Plain scalars end where a colon or a comment follows, and within brackets also at the characters
that structure these.
-/

namespace TableQuery.Yaml.Plain

/-- Whether the first of two characters can belong to a plain scalar. -/
def admits (inFlow : Bool) (c next : Char) : Bool :=
  if c == ':' && (endsWord next || (inFlow && isFlowChar next)) then false
  else !(inFlow && isFlowChar c)

/-- The word of a plain scalar that comes first. -/
def word (inFlow : Bool) : List Char → List Char
  | [] => []
  | c :: rest =>
    if endsWord c || !admits inFlow c (rest.headD '\x00') then [] else c :: word inFlow rest

/-- The words of a plain scalar and the gaps between them, from a gap on. Outside of brackets the
scalar ends before a line that is indented less than `indent`. -/
def words? (inFlow : Bool) (indent : Int) : Nat → Gap → Cursor → Option (List Char × Cursor)
  | 0, _, _ => none
  | size + 1, gap, c =>
    if c.atBoundary || c.peek == '#' then some ([], c)
    else if inFlow && c.peek == '-' && isFlowChar (c.peekAt 1) then none
    else
      match word inFlow c.rest with
      | [] => some ([], c)
      | cs =>
        let behind := c.pass cs.length
        let text := gap.text ++ cs
        if behind.atEnd || !endsWord behind.peek then some (text, behind)
        else
          match Gap.read? true indent (behind.rest.length + 1) .none behind with
          | none => none
          | some (next, behind) =>
            if !inFlow && (behind.column : Int) < indent then some (text, behind)
            else (words? inFlow indent size next behind).map fun (more, c) => (text ++ more, c)

/-- The text of a plain scalar that starts here. -/
def read? (inFlow : Bool) (indent : Int) (c : Cursor) : Option (String × Cursor) :=
  if inFlow && (c.column : Int) < indent then none
  else
    (words? inFlow indent (c.rest.length + 1) .none c).map fun (cs, c) => (String.ofList cs, c)

end TableQuery.Yaml.Plain
