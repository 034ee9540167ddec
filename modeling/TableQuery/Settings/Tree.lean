import TableQuery.Number.Shortest
import TableQuery.Settings.Format
import TableQuery.Settings.Path
import TableQuery.Text.Casing
import TableQuery.Text.Numeral

/-!
# Trees of settings

What a document or an environment says about settings, before their types are known. Later sources
are laid over earlier ones: tables are joined name by name, in small letters, and anything else
replaces what was there. A value is taken for one of another type where its text or its number
allows it.
-/

namespace TableQuery

/-- A tree of settings. -/
inductive SettingTree where
  | null
  | flag (value : Bool)
  | whole (value : Int)
  | real (value : Binary64)
  | text (value : String)
  | list (items : List SettingTree)
  | table (entries : List (String × SettingTree))

namespace SettingTree

/-! ## Values -/

/-- The texts of yes. -/
def yesWords : List String :=
  ["true", "on", "yes"]

/-- The texts of no. -/
def noWords : List String :=
  ["false", "off", "no"]

/-- The yes or no of a text, in any case. -/
def flagOfText? (s : String) : Option Bool :=
  let word := Text.lowercase s
  if yesWords.contains word then some true
  else if noWords.contains word then some false
  else none

/-- The truth value that a value stands for. -/
def flag? : SettingTree → Option Bool
  | .flag b => some b
  | .whole n => some (n != 0)
  | .real x => some (!x.same (Binary64.zero false))
  | .text s => if s == "1" then some true else if s == "0" then some false else flagOfText? s
  | _ => none

/-- The text that a value stands for. -/
def text? : SettingTree → Option String
  | .text s => some s
  | .flag b => some (if b then "true" else "false")
  | .whole n => some (toString n)
  | .real x => some x.plainText
  | _ => none

/-- The natural number that a value stands for, if it fits into some bits. -/
def word? (bits : Nat) (v : SettingTree) : Option Nat :=
  let n? : Option Nat :=
    match v with
    | .whole n => if 0 ≤ n then some n.toNat else none
    | .flag b => some b.toNat
    | .real x => some (Word.saturate 64 x.roundedNat)
    | .text s => ((flagOfText? s).map Bool.toNat).or (Text.readNat? (Word.greatest 64) s)
    | _ => none
  n?.filter (· < Word.count bits)

/-- The protocol that a word in any case, or a table with one entry of that name, stands for. -/
def protocol? : SettingTree → Option Protocol
  | .text w => Protocol.ofWord? (Text.lowercase w)
  | .table [(w, _)] => Protocol.ofWord? (Text.lowercase w)
  | _ => none

/-- The entries of a table, or the items of a list named in order. -/
def record? (names : List String) : SettingTree → Option (List (String × SettingTree))
  | .table entries => some entries
  | .list items => some (names.zip items)
  | _ => none

/-- Trees as a source of settings. -/
def format : SettingFormat SettingTree where
  isNull
    | .null => true
    | _ => false
  text? := text?
  flag? := flag?
  word? := word?
  protocol? := protocol?
  record? := record?

/-! ## Laying trees over each other -/

/-- The entries of a table, and none of anything else. -/
def entries : SettingTree → List (String × SettingTree)
  | .table es => es
  | _ => []

/-- The entry with a name. -/
def lookup? (es : List (String × SettingTree)) (name : String) : Option SettingTree :=
  (es.find? (·.1 == name)).map (·.2)

/-- Sets an entry, in place of one with the same name. -/
def setEntry (name : String) (v : SettingTree) :
    List (String × SettingTree) → List (String × SettingTree)
  | [] => [(name, v)]
  | (n, old) :: es => if n = name then (n, v) :: es else (n, old) :: setEntry name v es

mutual

/-- Lays a value over the entry with a name. -/
def put (name : String) (es : List (String × SettingTree)) :
    SettingTree → List (String × SettingTree)
  | .table new =>
    let name := Text.lowercase name
    setEntry name (putAll ((lookup? es name).getD (.table [])) new) es
  | v => setEntry (Text.lowercase name) v es

/-- Lays entries over a tree, which becomes a table if it is none. -/
def putAll (old : SettingTree) : List (String × SettingTree) → SettingTree
  | [] => old
  | (name, v) :: new => putAll (.table (put name old.entries v)) new

end

/-- The items of a list, and none of anything else. -/
def items : SettingTree → List SettingTree
  | .list vs => vs
  | _ => []

/-- The place of an item that a number chooses, where negative numbers count from the end. -/
def position (index : Int) (length : Nat) : Nat :=
  if 0 ≤ index then index.toNat else length - index.natAbs

/-- Changes the item at a place; nulls fill the list up to there. -/
def changeItem (f : SettingTree → SettingTree) : Nat → List SettingTree → List SettingTree
  | 0, [] => [f .null]
  | 0, v :: vs => f v :: vs
  | n + 1, [] => .null :: changeItem f n []
  | n + 1, v :: vs => v :: changeItem f n vs

/-- Lays a value over what is at a path, whose tables and lists are made where they are missing. An
item of a list is replaced. -/
def putAt (v : SettingTree) : List PathStep → SettingTree → SettingTree
  | [], old => old
  | [.entry name], old => .table (put name old.entries v)
  | .entry name :: path, old =>
    let name := Text.lowercase name
    .table (setEntry name (putAt v path ((lookup? old.entries name).getD .null)) old.entries)
  | [.item index], old =>
    .list (changeItem (fun _ => v) (position index old.items.length) old.items)
  | .item index :: path, old =>
    .list (changeItem (putAt v path) (position index old.items.length) old.items)

/-- Lays named values, whose names may be paths, over a tree. -/
def overlay (old : SettingTree) (new : List (String × SettingTree)) : SettingTree :=
  new.foldl (fun tree (name, v) => putAt v (PathStep.ofName name) tree) old

end SettingTree

end TableQuery
