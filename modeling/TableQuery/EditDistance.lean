/-!
# Edit distance

The least number of single characters to insert, delete or replace in order to turn one text into
another, by the rows of the table of distances between prefixes, and the nearest name within a small
distance.
-/

namespace TableQuery.EditDistance

/-- The rest of the row for a prefix that ends in `x`, from the row above it. `corner` is the entry
above and to the left, `left` the entry just written. -/
def fillRow (x : Char) : List Char → Nat → Nat → List Nat → List Nat
  | y :: ys, corner, left, above :: rest =>
    let cost := if x = y then 0 else 1
    let entry := min (min (above + 1) (left + 1)) (corner + cost)
    entry :: fillRow x ys above entry rest
  | _, _, _, _ => []

/-- The row after another, for one more character in front. -/
def nextRow (ys : List Char) (row : List Nat) (x : Char) : List Nat :=
  match row with
  | [] => []
  | corner :: rest => (corner + 1) :: fillRow x ys corner (corner + 1) rest

/-- The row for the empty prefix. -/
def firstRow (ys : List Char) : List Nat :=
  List.range (ys.length + 1)

/-- The distance of two lists of characters. -/
def distanceChars (xs ys : List Char) : Nat :=
  (xs.foldl (nextRow ys) (firstRow ys)).getLastD 0

/-- The distance of two texts. -/
def distance (a b : String) : Nat :=
  distanceChars a.toList b.toList

/-- The greatest distance at which a name is still suggested. -/
def suggestionLimit : Nat := 3

/-- The better of a candidate and one more option. The earlier one stays when both are equally
near. -/
def better (target : String) (best : Option (String × Nat)) (option : String) :
    Option (String × Nat) :=
  let d := distance target option
  match best with
  | none => if d ≤ suggestionLimit then some (option, d) else none
  | some (name, e) => if d < e then some (option, d) else some (name, e)

/-- The nearest option, the first of several, if there is one within the limit. -/
def closest? (target : String) (options : List String) : Option String :=
  (options.foldl (better target) none).map (·.1)

end TableQuery.EditDistance
