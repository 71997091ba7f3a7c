import RollCall.Pattern
import RollCall.Report
import RollCall.Settings.Tree

/-! Settings from environment variables, with defaults for what is not set. -/
namespace RollCall

structure Settings where
  preset : Preset := .podName
  /-- A pattern of one's own, which goes before the preset. -/
  pattern : Option String := none
  showCounts : Bool := false
  format : OutputFormat := .text
  color : Bool := true
deriving DecidableEq, Inhabited

namespace Settings

inductive Invalid
  /-- The text, in lower case, is no truth value. -/
  | notBoolean (key word : String)
  /-- A table or a list stands where something simple is asked for. -/
  | compound (key : String) (isTable : Bool) (asked : String)
  | unknownChoice (choices value : String)
  | notChoice (choices : String)
deriving DecidableEq, Inhabited

def Invalid.message : Invalid → String
  | .notBoolean key word =>
    "invalid type: string " ++ String.ofList (Quoted.quote word) ++
      ", expected a boolean for key `" ++ key ++ "` in the environment"
  | .compound key isTable asked =>
    "invalid type: " ++ (if isTable then "map" else "sequence") ++ ", expected " ++ asked ++
      " for key `" ++ key ++ "`"
  | .unknownChoice choices value =>
    "enum " ++ choices ++ " does not have variant constructor " ++ value
  | .notChoice choices =>
    "value of enum " ++ choices ++
      " should be represented by either string or table with exactly one key"

/-- The trees of all settings that the variables name, known or not. -/
abbrev Entries := List (String × Tree)

def Entries.get? (es : Entries) (root : String) : Option Tree := es.lookup root

/-- The entries with the value of one more path. -/
def Entries.add (room : Nat) (es : Entries) (path value : String) : Except Crash Entries := do
  let name := Name.ofPath path
  let tree ← Tree.put room (es.get? name.root) name.steps (.ofText value)
  return setEntry es name.root tree

/-- The paths of the variables with their values; of several with one path, the last counts. -/
def collect (env : Environment) : List (String × String) :=
  env.foldl (fun table v =>
    match pathOf? v.1 with
    | some path => setEntry table path v.2
    | none => table) []

def Entries.ofEnvironment (m : Machine) (env : Environment) : Except Crash Entries :=
  (m.variableOrder.visit Prod.fst (collect env)).foldlM (fun es v => es.add m.room v.1 v.2) []

def booleanField (key : String) (default : Bool) : Option Tree → Except Invalid Bool
  | none => .ok default
  | some (.value v) => v.asBoolean.mapError (.notBoolean key)
  | some (.table _) => .error (.compound key true "a boolean")
  | some (.list _ _) => .error (.compound key false "a boolean")

def textField (key : String) : Option Tree → Except Invalid (Option String)
  | none => .ok none
  | some (.value v) => .ok (some v.asText)
  | some (.table _) => .error (.compound key true "a string")
  | some (.list _ _) => .error (.compound key false "a string")

/-- One of several choices by its name, in any case. -/
def choose {α : Type} (choices : String) (named : List (String × α)) (value : String) :
    Except Invalid α :=
  match named.find? fun c => LowerCase.ofText c.1 = LowerCase.ofText value with
  | some c => .ok c.2
  | none => .error (.unknownChoice choices value)

/-- A setting that is one of several choices: a text, or a table whose only key names the choice. -/
def choiceField {α : Type} (choices : String) (named : List (String × α)) (default : α) :
    Option Tree → Except Invalid α
  | none => .ok default
  | some (.value (.text s)) => choose choices named s
  | some (.table [(k, _)]) => choose choices named k
  | some _ => .error (.notChoice choices)

inductive Field
  | preset | pattern | showCounts | format | color
deriving DecidableEq, Inhabited

namespace Field

def all : List Field := [preset, pattern, showCounts, format, color]

def key : Field → String
  | .preset => "preset"
  | .pattern => "pattern"
  | .showCounts => "show_counts"
  | .format => "format"
  | .color => "color"

/-- The settings with one of them read from its tree. -/
def read (k : Field) (tree : Option Tree) (t : Settings) : Except Invalid Settings :=
  let defaults : Settings := {}
  match k with
  | .preset =>
    (choiceField "PatternPreset"
      [(Preset.podName.name, .podName), (Preset.version.name, .version)] defaults.preset tree).map
      fun preset => { t with preset }
  | .pattern => (textField k.key tree).map fun pattern => { t with pattern }
  | .showCounts =>
    (booleanField k.key defaults.showCounts tree).map fun showCounts => { t with showCounts }
  | .format =>
    (choiceField "OutputFormat"
      [(OutputFormat.text.name, .text), (OutputFormat.json.name, .json)] defaults.format tree).map
      fun format => { t with format }
  | .color => (booleanField k.key defaults.color tree).map fun color => { t with color }

end Field

/-- The settings that entries give. The first one that is invalid, in the order in which they are
visited, is the one that is complained of. -/
def ofEntries (o : VisitOrder) (es : Entries) : Except Invalid Settings :=
  (o.visit Field.key Field.all).foldlM (fun t k => k.read (es.get? k.key) t) {}

inductive Obstacle
  | invalid (e : Invalid)
  | crash (c : Crash)
deriving DecidableEq, Inhabited

def ofEnvironment (m : Machine) (env : Environment) : Except Obstacle Settings := do
  let es ← (Entries.ofEnvironment m env).mapError .crash
  (ofEntries m.settingOrder es).mapError .invalid

end Settings

end RollCall
