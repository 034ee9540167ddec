import TableQuery.Text.Composition
import TableQuery.Url.MappingTable

/-!
# Characters of domain names

Domain names are compared by the characters that those in them stand for: capital letters stand for
small ones, and signs for the letters they show. Some characters do not count, and some may not
stand in a domain name at all.
-/

namespace TableQuery.Url

open TableQuery.Text

/-- Characters that stand for others: `first`, `first + step`, … up to `last` stand for `target` and
those that follow it, where there is one target only. -/
structure Replacement where
  first : Nat
  last : Nat
  step : Nat
  target : List Nat
  deriving DecidableEq, Repr

namespace Replacement

/-- The replacement in a word `first-last/step>target`. -/
def ofWord? (word : List Char) : Option Replacement :=
  match word.splitOn '>' with
  | [source, target] =>
    let target := codePoints '.' target
    match source.splitOn '/' with
    | range :: steps =>
      let step := if steps.isEmpty then 1 else 2
      match codePoints '-' range with
      | [first, last] => some ⟨first, last, step, target⟩
      | [first] => some ⟨first, first, step, target⟩
      | _ => none
    | [] => none
  | _ => none

/-- Whether a number is among those replaced. -/
def covers (r : Replacement) (n : Nat) : Bool :=
  r.first ≤ n && n ≤ r.last && (n - r.first) % r.step == 0

def apply (r : Replacement) (n : Nat) : List Char :=
  r.target.map fun t => Char.ofNat (t + (n - r.first))

end Replacement

def replacements : List Replacement :=
  replaced.flatMap fun line => (line.toList.splitOn ' ').filterMap Replacement.ofWord?

/-- What a character in a domain name stands for. -/
inductive DomainChar where
  | kept
  | dropped
  | replaced (target : List Char)
  | refused
  deriving DecidableEq, Repr

/-- What the character stands for. -/
def DomainChar.ofChar (c : Char) : DomainChar :=
  if c.toNat < 0x80 then if c.isUpper then .replaced [c.toLower] else .kept
  else
    match replacements.find? (·.covers c.toNat) with
    | some r => .replaced (r.apply c.toNat)
    | none =>
      if CharRange.anyCovers Url.dropped c then .dropped
      else if CharRange.anyCovers Url.refused c then .refused
      else .kept

/-- What the characters of a domain name stand for. -/
def replaceAll? : List Char → Option (List Char)
  | [] => some []
  | c :: rest =>
    match DomainChar.ofChar c with
    | .kept => (replaceAll? rest).map (c :: ·)
    | .dropped => replaceAll? rest
    | .replaced cs => (replaceAll? rest).map (cs ++ ·)
    | .refused => none

/-- The form in which a domain name is compared. -/
def mapped? (cs : List Char) : Option (List Char) :=
  if cs.all (·.toNat < 0x80) then replaceAll? cs else (replaceAll? cs).map compose

/-- Whether the text is in the form in which domain names are compared, by itself. -/
def isMapped (cs : List Char) : Bool :=
  cs.all (DomainChar.ofChar · == .kept) && compose cs == cs

end TableQuery.Url
