import TableQuery.Yaml.Node

/-!
# Documents

A text holds at most one document. In front of it there may be directives, which need a marker
behind them; behind it there may be nothing but markers of its end.
-/

namespace TableQuery.Yaml

/-- The handle that the directives declare: only the last directive counts. There may be one version
only. -/
def declared? (versions : Nat) (handle : Option (String × String)) :
    List Token → Option (Option (String × String) × List Token)
  | .directive .version :: rest => if versions = 0 then declared? 1 none rest else none
  | .directive (.handle name stem) :: rest => declared? versions (some (name, stem)) rest
  | ts => some (handle, ts)

/-- The tokens that are no markers of an end. -/
def skipEnds (ts : List Token) : List Token :=
  ts.dropWhile (· == .documentEnd)

/-- Whether a document ends in front of the tokens. -/
def endsDocument : List Token → Bool
  | [] => true
  | .directive _ :: _ => true
  | .documentStart :: _ => true
  | .documentEnd :: _ => true
  | _ => false

/-- The value in front of tokens, with nothing but markers of an end behind it. -/
def only? (names : Names) (ts : List Token) : Option Node :=
  match node? (4 * ts.length + 8) true false names ts with
  | some (node, rest, _) => if (skipEnds rest).isEmpty then some node else none
  | none => none

/-- The value of the document that the tokens make up, if there is one. -/
def ofTokens? (ts : List Token) : Option (Option Node) :=
  let ts := skipEnds ts
  match ts with
  | [] => some none
  | .documentStart :: _ | .directive _ :: _ =>
    match declared? 0 none ts with
    | some (handle, .documentStart :: rest) =>
      if endsDocument rest then
        if (skipEnds rest).isEmpty then some (some Node.empty) else none
      else (only? (Names.ofHandle handle) rest).map some
    | _ => none
  | ts => (only? (Names.ofHandle none) ts).map some

/-- The value of the document in a text: nothing where the text has no document, and `none` where it
is not readable or has several. -/
def document? (text : String) : Option (Option SettingTree) :=
  match (tokens? text).bind ofTokens? with
  | none => none
  | some none => some none
  | some (some node) => some (some (node.getD .null))

end TableQuery.Yaml
