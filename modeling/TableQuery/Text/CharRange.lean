/-!
# Ranges of characters

A property of characters is written as an ascending list of closed ranges of code points. This file
holds the type of such lists and the test whether a character lies in one of them.
-/

namespace TableQuery.Text

/-- A closed range of code points, first and last. -/
abbrev CharRange : Type := Nat × Nat

namespace CharRange

/-- Whether the character lies in the range. -/
def covers (r : CharRange) (c : Char) : Bool :=
  r.1 ≤ c.toNat && c.toNat ≤ r.2

/-- Whether the character lies in one of the ranges. -/
def anyCovers (rs : List CharRange) (c : Char) : Bool :=
  rs.any (covers · c)

theorem anyCovers_iff {rs : List CharRange} {c : Char} :
    anyCovers rs c = true ↔ ∃ r ∈ rs, r.1 ≤ c.toNat ∧ c.toNat ≤ r.2 := by
  simp [anyCovers, covers]

end CharRange

end TableQuery.Text
