import TableQuery.Yaml.Layout
import TableQuery.Yaml.Scalar

/-!
# Nodes of a document

Reads the value of a document from its tokens: scalars, lists and tables, with anchors that name
them and aliases that repeat them. Loops run on a `size` that grows with the number of tokens.
-/

namespace TableQuery.Yaml

/-- A value, or nothing where a tag asks for a type that the text is not of. -/
abbrev Node : Type := Option SettingTree

namespace Node

/-- A value that is left out. -/
def empty : Node := some .null

/-- What a scalar stands for, if settings can hold it. -/
def ofMeaning? : Meaning → Option Node
  | .value v => some (some v)
  | .misfit => some none
  | .unbounded => none

/-- The scalar with a text. Tags count only where there are no quotes. -/
def ofScalar? (isPlain : Bool) (tag : Option Tag) (text : String) : Option Node :=
  if isPlain then
    ofMeaning? (match tag with
      | some t => Meaning.ofTagged t text
      | none => Meaning.ofWord text)
  else some (some (.text text))

/-- A list of values. -/
def ofItems (items : List Node) : Node :=
  some (.list (items.map fun n => n.getD .null))

/-! ## Tables -/

/-- A key of a table. -/
inductive Key where
  | text (s : String)
  | whole (n : Int)
  deriving DecidableEq, Repr

/-- The key that a value can be. -/
def Key.ofTree? : SettingTree → Option Key
  | .text s => some (.text s)
  | .whole n => some (.whole n)
  | _ => none

/-- The name of an entry with the key. -/
def Key.name : Key → String
  | .text s => s
  | .whole n => toString n

/-- Pairs values up, each key with the value behind it. A node without a value is passed over where
a key is due; a key without a value at the end does not count. -/
def pairs : List Node → List (SettingTree × SettingTree)
  | none :: rest => pairs rest
  | some k :: v :: rest => (k, v.getD .null) :: pairs rest
  | _ => []

/-- Adds an entry unless its key is taken. -/
def addNew? (done : List (Key × SettingTree)) (entry : SettingTree × SettingTree) :
    Option (List (Key × SettingTree)) :=
  match Key.ofTree? entry.1 with
  | none => none
  | some k => if done.any (·.1 == k) then none else some (done ++ [(k, entry.2)])

/-- The table whose keys and values come in turn. -/
def ofKeysAndValues? (nodes : List Node) : Option Node :=
  ((pairs nodes).foldlM addNew? []).map fun entries =>
    some (.table (entries.foldl (fun es (k, v) => SettingTree.setEntry k.name v es) []))

end Node

/-! ## Names within a document -/

/-- What is known in a document: what a handle of tags stands for, the numbers of anchors by their
names, the last one first, and the values of anchored nodes that have been read to the end. -/
structure Names where
  handle : Option (String × String)
  anchors : List (String × Nat)
  values : List (Nat × Node)

namespace Names

/-- The names at the start of a document. -/
def ofHandle (handle : Option (String × String)) : Names :=
  ⟨handle, [], []⟩

/-- What a handle stands for, by a directive of the document. -/
def stem? (names : Names) (handle : String) : Option String :=
  match names.handle with
  | some (name, stem) => if name == handle then some stem else none
  | none => none

/-- The tag with what its handle stands for. A named handle has to be declared. -/
def resolve? (names : Names) (t : Tag) : Option Tag :=
  match names.stem? t.handle with
  | some stem => some { t with handle := stem }
  | none =>
    if t.handle == "!!" then some { t with handle := standardStem }
    else if 2 ≤ t.handle.length && t.handle.endsWith "!" then none
    else some t

/-- The names with another anchor, and its number. -/
def register (names : Names) (name : String) : Nat × Names :=
  let n := names.anchors.length
  (n, { names with anchors := (name, n) :: names.anchors })

/-- The names with the value of an anchored node, if the node is anchored. -/
def settle (names : Names) (anchor : Option Nat) (node : Node) : Names :=
  match anchor with
  | some n => { names with values := (n, node) :: names.values }
  | none => names

/-- The value that an alias repeats; a node that has not been read to the end has none. -/
def value? (names : Names) (name : String) : Option Node :=
  (names.anchors.find? (·.1 == name)).map fun (_, n) =>
    ((names.values.find? (·.1 == n)).map (·.2)).getD none

end Names

/-! ## Reading -/

/-- A node that was read, the tokens left, and the names known. -/
abbrev Reading : Type := Node × List Token × Names

/-- The anchor and the tag in front of a value, in either order. -/
def properties? (names : Names) : List Token → Option (Option Nat × Option Tag × List Token × Names)
  | .anchor a :: .tag t :: rest => do
    let t ← names.resolve? t
    let (n, names) := names.register a
    some (some n, some t, rest, names)
  | .tag t :: .anchor a :: rest => do
    let t ← names.resolve? t
    let (n, names) := names.register a
    some (some n, some t, rest, names)
  | .anchor a :: rest =>
    let (n, names) := names.register a
    some (some n, none, rest, names)
  | .tag t :: rest => do
    let t ← names.resolve? t
    some (none, some t, rest, names)
  | ts => some (none, none, ts, names)

/-- Whether the value of an entry is left out, given what follows its sign. -/
def endsEntry : List Token → Bool
  | .key :: _ => true
  | .value :: _ => true
  | .blockEnd :: _ => true
  | _ => false

/-- Whether an item is left out, given what follows its dash. -/
def endsItem (indented : Bool) : List Token → Bool
  | .item :: _ => true
  | .blockEnd :: _ => true
  | .key :: _ => !indented
  | .value :: _ => !indented
  | _ => false

/-- Whether the value of an entry in brackets is left out, given what follows its sign. -/
def endsFlowEntry (closing : Token) : List Token → Bool
  | t :: _ => t == .comma || t == closing
  | [] => false

mutual

/-- A value. Where it may not be a `block`, it is a scalar or in brackets; where it `mayBeLevel`, it
may be a list whose dashes stand as far out as the key in front. -/
def node? : Nat → Bool → Bool → Names → List Token → Option Reading
  | 0, _, _, _, _ => none
  | size + 1, block, mayBeLevel, names, ts =>
    match ts with
    | .alias name :: rest => (names.value? name).map fun n => (n, rest, names)
    | ts => do
      let (anchor, tag, ts, names) ← properties? names ts
      let (node, ts, names) ←
        match ts, block, mayBeLevel with
        | .item :: _, _, true => items? size false [] names ts
        | .scalar isPlain text :: rest, _, _ =>
          (Node.ofScalar? isPlain tag text).map fun n => (n, rest, names)
        | .openList :: rest, _, _ => flowItems? size true [] names rest
        | .openTable :: rest, _, _ => flowEntries? size true [] names rest
        | .blockList :: rest, true, _ => items? size true [] names rest
        | .blockTable :: rest, true, _ => entries? size [] names rest
        | ts, _, _ =>
          if anchor.isSome || tag.isSome then
            (Node.ofScalar? true tag "").map fun n => (n, ts, names)
          else none
      some (node, ts, names.settle anchor node)

/-- The items of a list with dashes. If the list is not indented further than what it stands in, it
ends where there is no dash. -/
def items? : Nat → Bool → List Node → Names → List Token → Option Reading
  | 0, _, _, _, _ => none
  | size + 1, indented, done, names, ts =>
    match ts with
    | .item :: rest =>
      if endsItem indented rest then items? size indented (done ++ [Node.empty]) names rest
      else do
        let (node, rest, names) ← node? size true false names rest
        items? size indented (done ++ [node]) names rest
    | ts =>
      if indented then
        match ts with
        | .blockEnd :: rest => some (Node.ofItems done, rest, names)
        | _ => none
      else some (Node.ofItems done, ts, names)

/-- The keys and values of a table by indentation. -/
def entries? : Nat → List Node → Names → List Token → Option Reading
  | 0, _, _, _ => none
  | size + 1, done, names, ts =>
    match ts with
    | .blockEnd :: rest => (Node.ofKeysAndValues? done).map fun n => (n, rest, names)
    | .key :: rest => do
      let (key, rest, names) ←
        if endsEntry rest then some (Node.empty, rest, names) else node? size true true names rest
      let (value, rest, names) ← blockValue? size names rest
      entries? size (done ++ [key, value]) names rest
    | .value :: _ => do
      let (value, rest, names) ← blockValue? size names ts
      entries? size (done ++ [Node.empty, value]) names rest
    | _ => none

/-- The value of an entry by indentation, which may be left out together with its colon. -/
def blockValue? : Nat → Names → List Token → Option Reading
  | 0, _, _ => none
  | size + 1, names, ts =>
    match ts with
    | .value :: rest =>
      if endsEntry rest then some (Node.empty, rest, names) else node? size true true names rest
    | ts => some (Node.empty, ts, names)

/-- The value of an entry in brackets, which may be left out together with its colon. -/
def flowValue? : Nat → Token → Names → List Token → Option Reading
  | 0, _, _, _ => none
  | size + 1, closing, names, ts =>
    match ts with
    | .value :: rest =>
      if endsFlowEntry closing rest then some (Node.empty, rest, names)
      else node? size false false names rest
    | ts => some (Node.empty, ts, names)

/-- The items of a list in brackets. Behind the first one each has a comma in front. -/
def flowItems? : Nat → Bool → List Node → Names → List Token → Option Reading
  | 0, _, _, _, _ => none
  | size + 1, isFirst, done, names, ts =>
    match ts, isFirst with
    | .closeList :: rest, _ => some (Node.ofItems done, rest, names)
    | .comma :: ts, false => flowItem? size done names ts
    | _, false => none
    | ts, true => flowItem? size done names ts

/-- One item of a list in brackets, and those behind it. An item may be a single entry. -/
def flowItem? : Nat → List Node → Names → List Token → Option Reading
  | 0, _, _, _ => none
  | size + 1, done, names, ts =>
    match ts with
    | .closeList :: rest => some (Node.ofItems done, rest, names)
    | .key :: rest => do
      let (key, rest, names) ← node? size false false names rest
      let (value, rest, names) ← flowValue? size .closeList names rest
      let entry ← Node.ofKeysAndValues? [key, value]
      flowItems? size false (done ++ [entry]) names rest
    | ts => do
      let (node, rest, names) ← node? size false false names ts
      flowItems? size false (done ++ [node]) names rest

/-- The keys and values of a table in brackets. Behind the first entry each has a comma in front. -/
def flowEntries? : Nat → Bool → List Node → Names → List Token → Option Reading
  | 0, _, _, _, _ => none
  | size + 1, isFirst, done, names, ts =>
    match ts, isFirst with
    | .closeTable :: rest, _ => (Node.ofKeysAndValues? done).map fun n => (n, rest, names)
    | .comma :: ts, false => flowPair? size done names ts
    | _, false => none
    | ts, true => flowPair? size done names ts

/-- One entry of a table in brackets, and those behind it. -/
def flowPair? : Nat → List Node → Names → List Token → Option Reading
  | 0, _, _, _ => none
  | size + 1, done, names, ts =>
    match ts with
    | .closeTable :: rest => (Node.ofKeysAndValues? done).map fun n => (n, rest, names)
    | .key :: rest => do
      let (key, rest, names) ←
        if (match rest with | .value :: _ => true | _ => false) || endsFlowEntry .closeTable rest
        then some (Node.empty, rest, names)
        else node? size false false names rest
      let (value, rest, names) ← flowValue? size .closeTable names rest
      flowEntries? size false (done ++ [key, value]) names rest
    | .value :: _ => do
      let (value, rest, names) ← flowValue? size .closeTable names ts
      flowEntries? size false (done ++ [Node.empty, value]) names rest
    | ts => do
      let (key, rest, names) ← node? size false false names ts
      flowEntries? size false (done ++ [key, Node.empty]) names rest

end

end TableQuery.Yaml
