import RollCall.Unicode.Category
import RollCall.Unicode.Property
import RollCall.Unicode.Script

/-! The sets of characters that a pattern can name: binary properties, general categories with
their groups, scripts, and the classes of digits, blanks and word characters. -/
namespace RollCall.Unicode

/-- The union of the named categories. -/
def categoryUnion (names : List String) : CharSet :=
  .ofIntervals ((categories.filter fun s => s.names.any names.contains).flatMap (·.set.intervals))

/-- Code points without a category of their own. -/
def unassigned : CharSet :=
  (CharSet.ofIntervals (categories.flatMap (·.set.intervals))).complement

/-- The groups of categories under their names. -/
def categoryGroups : List (List String × List String) := [
  (["l", "letter"], ["lu", "ll", "lt", "lm", "lo"]),
  (["lc", "casedletter"], ["lu", "ll", "lt"]),
  (["m", "mark", "combiningmark"], ["mn", "mc", "me"]),
  (["n", "number"], ["nd", "nl", "no"]),
  (["p", "punctuation", "punct"], ["pc", "pd", "ps", "pe", "pi", "pf", "po"]),
  (["s", "symbol"], ["sm", "sc", "sk", "so"]),
  (["z", "separator"], ["zs", "zl", "zp"])]

def category? (name : String) : Option CharSet :=
  if name = "any" then some .any
  else if name = "assigned" then some unassigned.complement
  else if name = "ascii" then some ⟨[⟨0, 0x7F⟩]⟩
  else if ["cn", "unassigned"].contains name then some unassigned
  else if ["c", "other"].contains name then
    some (unassigned.union (categoryUnion ["cc", "cf", "co"]))
  else match categoryGroups.find? (·.1.contains name) with
    | some group => some (categoryUnion group.2)
    | none => lookup categories name

def script? (name : String) : Option CharSet := lookup scripts name

/-- The extended set of a script; most scripts have no other than their own. -/
def scriptExtension? (name : String) : Option CharSet :=
  match lookup scriptExtensions name with
  | some s => some s
  | none => script? name

/-- A set named alone: a property, a category or a script, in this order. -/
def named? (name : List Char) : Option CharSet :=
  let name := looseName name
  match lookup properties name with
  | some s => some s
  | none =>
    match category? name with
    | some s => some s
    | none => script? name

/-- A set named by a property and one of its values. -/
def valued? (property value : List Char) : Option CharSet :=
  let property := looseName property
  let value := looseName value
  if ["gc", "generalcategory"].contains property then category? value
  else if ["sc", "script"].contains property then script? value
  else if ["scx", "scriptextensions"].contains property then scriptExtension? value
  else none

def digits : CharSet := categoryUnion ["nd"]

/-- Blanks and line ends of every kind. -/
def blanks : CharSet := (lookup properties "whitespace").getD .empty

/-- Letters and what counts as a letter within a word. -/
def alphabetic : CharSet := (lookup properties "alphabetic").getD .empty

/-- Word characters: letters, marks, decimal digits, connectors and joiners. -/
def wordChars : CharSet :=
  .ofIntervals (alphabetic.intervals ++
    (categoryUnion ["mn", "mc", "me", "nd", "pc"]).intervals ++
    ((lookup properties "joincontrol").getD .empty).intervals)

/-- Characters that extend the one before them. -/
def extending : CharSet := (lookup properties "graphemeextend").getD .empty

/-- What a listing shows as a number: controls, formats, private and unassigned characters, and
every separator but the blank. -/
def unprintable : CharSet :=
  (unassigned.union (categoryUnion ["cc", "cf", "co", "zl", "zp", "zs"])).difference
    (.singleton ' ')

def cased : CharSet := (lookup properties "cased").getD .empty

/-- Characters that are passed over where the case of a letter depends on its neighbours. -/
def caseIgnorable : CharSet := (lookup properties "caseignorable").getD .empty

def isCased (c : Char) : Bool := cased.contains c

def isCaseIgnorable (c : Char) : Bool := caseIgnorable.contains c

def isAlphabetic (c : Char) : Bool := alphabetic.contains c

def numeric : CharSet := categoryUnion ["nd", "nl", "no"]

def isAlphanumeric (c : Char) : Bool := alphabetic.contains c || numeric.contains c

def isBlank (c : Char) : Bool := blanks.contains c

def isWordChar (c : Char) : Bool := wordChars.contains c

end RollCall.Unicode
