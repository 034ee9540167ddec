import TableQuery.Text.CombiningTable
import TableQuery.Text.Numeral

/-!
# Composed text

The same text can be written with single characters or with marks that combine. In composed text
the marks stand in a fixed order, and a character with marks is written as a single character where
there is one. Syllables of Hangul are composed of their letters by their numbers.
-/

namespace TableQuery.Text

/-! ## Pairs -/

/-- The place of a mark; zero where the character is no mark or may not be moved. -/
def markPlace (c : Char) : Nat :=
  let n := c.toNat
  if n < 0x300 then 0
  else ((combining.find? fun r => r.1 ≤ n && n ≤ r.2.1).map (·.2.2)).getD 0

/-- The numbers in base sixteen that stand between signs. -/
def codePoints (sign : Char) (cs : List Char) : List Nat :=
  (cs.splitOn sign).filterMap (digitsIn? 16)

/-- Two characters and the character for them. -/
abbrev Pair : Type := Char × Char × Char

/-- The pair in a word `first.second>both`. -/
def pairOf? (word : List Char) : Option Pair :=
  match word.splitOn '>' with
  | [parts, both] =>
    match codePoints '.' parts, digitsIn? 16 both with
    | [a, b], some c => some (Char.ofNat a, Char.ofNat b, Char.ofNat c)
    | _, _ => none
  | _ => none

def pairs : List Pair :=
  compositions.flatMap fun line => (line.toList.splitOn ' ').filterMap pairOf?

/-! ## Syllables -/

/-- The first syllable of Hangul, and the last one. -/
def syllables : Nat × Nat := (0xAC00, 0xD7A3)

/-- The number before the first letter of each of the three places in a syllable, and how many
letters there are for it. -/
def initials : Nat × Nat := (0x1100, 19)

/-- The letters in the middle of a syllable. -/
def medials : Nat × Nat := (0x1161, 21)

/-- The letters at the end of a syllable, counted from none. -/
def finals : Nat × Nat := (0x11A7, 28)

/-- The place of a character among letters. -/
def letterIndex? (letters : Nat × Nat) (c : Char) : Option Nat :=
  if letters.1 ≤ c.toNat && c.toNat < letters.1 + letters.2 then some (c.toNat - letters.1)
  else none

/-- The syllable of two letters, or of a syllable without a last letter and that letter. -/
def composeSyllable? (a b : Char) : Option Char :=
  match letterIndex? initials a, letterIndex? medials b, letterIndex? finals b with
  | some i, some m, _ => some (Char.ofNat (syllables.1 + (i * medials.2 + m) * finals.2))
  | _, _, some f =>
    let n := a.toNat - syllables.1
    if 0 < f && syllables.1 ≤ a.toNat && a.toNat ≤ syllables.2 && n % finals.2 == 0 then
      some (Char.ofNat (a.toNat + f))
    else none
  | _, _, _ => none

/-- The letters of a syllable. -/
def decomposeSyllable? (c : Char) : Option (List Char) :=
  if syllables.1 ≤ c.toNat && c.toNat ≤ syllables.2 then
    let n := c.toNat - syllables.1
    let f := n % finals.2
    let front :=
      [Char.ofNat (initials.1 + n / finals.2 / medials.2),
       Char.ofNat (medials.1 + n / finals.2 % medials.2)]
    some (if f = 0 then front else front ++ [Char.ofNat (finals.1 + f)])
  else none

/-! ## Decomposing -/

/-- The characters that a character is composed of, taken apart a number of times. -/
def decomposeChar : Nat → Char → List Char
  | 0, c => [c]
  | depth + 1, c =>
    if c.toNat < 0xC0 then [c]
    else
      match decomposeSyllable? c with
      | some cs => cs
      | none =>
        match pairs.find? (·.2.2 == c) with
        | some (a, b, _) => decomposeChar depth a ++ decomposeChar depth b
        | none => [c]

/-- Puts a character in front of others, behind the marks that come before it. -/
def insertMark (c : Char) : List Char → List Char
  | [] => [c]
  | d :: rest =>
    if 0 < markPlace d && markPlace d < markPlace c then d :: insertMark c rest
    else c :: d :: rest

/-- The characters with their marks in order. -/
def orderMarks (cs : List Char) : List Char :=
  cs.foldr insertMark []

/-! ## Composing -/

/-- The character for two. -/
def composePair? (a b : Char) : Option Char :=
  (composeSyllable? a b).or ((pairs.find? fun p => p.1 == a && p.2.1 == b).map (·.2.2))

/-- Composes characters whose marks are in order. In front of them there is a `base`, if there is
one, and `behind` it are the marks that it does not compose with. -/
def composeFrom (base : Option Char) (behind : List Char) : List Char → List Char
  | [] => base.toList ++ behind
  | c :: rest =>
    let place := markPlace c
    let isNext := (behind.getLast?.map markPlace).all (· < place)
    match base with
    | none =>
      if place = 0 then composeFrom (some c) [] rest else c :: composeFrom none [] rest
    | some b =>
      match if isNext then composePair? b c else none with
      | some both => composeFrom (some both) behind rest
      | none =>
        if place = 0 then b :: behind ++ composeFrom (some c) [] rest
        else composeFrom (some b) (behind ++ [c]) rest

/-- The composed form of a text that holds no characters which only stand for others. -/
def compose (cs : List Char) : List Char :=
  composeFrom none [] (orderMarks (cs.flatMap (decomposeChar 8)))

end TableQuery.Text
