import TableQuery.Text.CasingTable

/-!
# Letter case

Changing the case of ASCII letters, and lowering the letters of every script. A capital sigma is
lowered to its final form when it ends a word.
-/

namespace TableQuery.Text

/-- Small ASCII letters become capital ones; all else stays. -/
def upperAscii (s : String) : String :=
  String.ofList (s.toList.map Char.toUpper)

/-- Capital ASCII letters become small ones; all else stays. -/
def lowerAscii (s : String) : String :=
  String.ofList (s.toList.map Char.toLower)

namespace Casing

/-- Whether the run lowers the code point. -/
def LowerRun.lowers (r : LowerRun) (n : Nat) : Bool :=
  r.first ≤ n && n ≤ r.last && (n - r.first) % r.step == 0

/-- The lower-case form of one character, taken by itself. -/
def lowerChar (c : Char) : List Char :=
  if c.toNat < 0x80 then [c.toLower]
  else if c.toNat == 0x130 then ['i', Char.ofNat 0x307]
  else
    match lowering.find? (·.lowers c.toNat) with
    | some r => [Char.ofNat (c.toNat + r.offset).toNat]
    | none => [c]

/-- Whether the first character that is not skipped is a letter with a case. -/
def meetsCased (cs : List Char) : Bool :=
  match cs.dropWhile (CharRange.anyCovers ignorable) with
  | [] => false
  | c :: _ => CharRange.anyCovers cased c

/-- Lowers the characters; `before` holds those already passed, the last one first. -/
def lowerFrom (before : List Char) : List Char → List Char
  | [] => []
  | c :: rest =>
    let form :=
      if c == 'Σ' then
        if meetsCased before && !meetsCased rest then ['ς'] else ['σ']
      else lowerChar c
    form ++ lowerFrom (c :: before) rest

/-- Letters that count as another small letter when case does not matter, and that letter. -/
def folds : List (Nat × Nat) :=
  [(0xB5, 0x3BC), (0x17F, 0x73), (0x345, 0x3B9), (0x3C2, 0x3C3), (0x3D0, 0x3B2), (0x3D1, 0x3B8),
   (0x3D5, 0x3C6), (0x3D6, 0x3C0), (0x3F0, 0x3BA), (0x3F1, 0x3C1), (0x3F5, 0x3B5),
   (0x1C80, 0x432), (0x1C81, 0x434), (0x1C82, 0x43E), (0x1C83, 0x441), (0x1C84, 0x442),
   (0x1C85, 0x442), (0x1C86, 0x44A), (0x1C87, 0x463), (0x1C88, 0xA64B), (0x1E9B, 0x1E61),
   (0x1FBE, 0x3B9), (0x1FD3, 0x390), (0x1FE3, 0x3B0), (0xFB05, 0xFB06)]

/-- Letters that have a small form and yet are told apart from it when case does not matter. -/
def unfolded : List CharRange :=
  [(0xA7CE, 0xA7CE), (0xA7D2, 0xA7D2), (0xA7D4, 0xA7D4), (0x16EA0, 0x16EB8)]

end Casing

/-- What a character counts as when case does not matter. -/
def foldCase (c : Char) : Char :=
  if CharRange.anyCovers Casing.unfolded c then c
  else
    match Casing.lowerChar c with
    | [d] => ((Casing.folds.find? (·.1 == d.toNat)).map fun f => Char.ofNat f.2).getD d
    | _ => c

/-- The text in lower case. -/
def lowercase (s : String) : String :=
  String.ofList (Casing.lowerFrom [] s.toList)

end TableQuery.Text
