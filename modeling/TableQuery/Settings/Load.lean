import TableQuery.Settings.Check
import TableQuery.Yaml.Document

/-!
# Loading settings

Settings come from a document, if there is one, and from the environment, which is laid over it. In
the environment, `HEAVYAI_CONNECTION__PORT` sets `connection.port`, in any case of letters.
-/

namespace TableQuery

namespace Settings

/-- Why settings could not be loaded. -/
inductive LoadError where
  /-- The document has no readable form. -/
  | unreadable
  /-- A setting has a value of the wrong type. -/
  | mistyped
  /-- Settings break rules. -/
  | invalid (faults : List SettingFault)
  deriving DecidableEq, Repr

/-- What the names of settings start with in the environment, in small letters. -/
def variableStem : String :=
  "heavyai_"

/-- The path of the setting that an environment variable names, if it names one. -/
def settingName? (name : String) : Option String :=
  let name := Text.lowercase name
  if variableStem.isPrefixOf name then
    some (".".intercalate ((String.ofList (name.toList.drop variableStem.length)).splitOn "__"))
  else none

/-- What the text of an environment variable says: a truth value in any case, a whole number, a
number, or else itself. -/
def variableValue (text : String) : SettingTree :=
  let word := Text.lowercase text
  if word == "true" then .flag true
  else if word == "false" then .flag false
  else
    match Text.readInt? Text.int64Min Text.int64Max text with
    | some n => .whole n
    | none =>
      match Binary64.read? text with
      | some x => .real x
      | none => .text text

/-- The settings in an environment, by their paths. -/
def ofEnvironment (env : List (String × String)) : List (String × SettingTree) :=
  env.filterMap fun (name, text) => (settingName? name).map (·, variableValue text)

/-- The entries that a document has at its root. A text with no document has none. -/
def ofDocument? (text : String) : Option (List (String × SettingTree)) :=
  match Yaml.document? text with
  | some none => some []
  | some (some (.table entries)) => some entries
  | _ => none

/-- Where a document comes from. -/
inductive Source where
  | text
  /-- A file, which may start with a mark of its byte order. -/
  | file
  deriving DecidableEq, Repr

/-- The text of a document without a mark of its byte order. -/
def Source.content (source : Source) (text : String) : String :=
  match source, text.toList with
  | .file, c :: rest => if c == Char.ofNat 0xFEFF then String.ofList rest else text
  | _, _ => text

/-- The settings that a document and an environment give. -/
def load (source : Source) (document : Option String) (env : List (String × String)) :
    Except LoadError Settings :=
  match ofDocument? (source.content (document.getD "")) with
  | none => .error .unreadable
  | some entries =>
    let tree := ((SettingTree.table []).overlay entries).overlay (ofEnvironment env)
    match SettingTree.format.settings? tree with
    | none => .error .mistyped
    | some settings =>
      if settings.faults.isEmpty then .ok settings else .error (.invalid settings.faults)

end Settings

end TableQuery
