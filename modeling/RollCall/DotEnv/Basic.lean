import RollCall.DotEnv.Lines
import RollCall.DotEnv.Value

/-! Files that set environment variables. Each entry `name=value` binds a variable, perhaps after
the word `export`; what is set already stays. -/
namespace RollCall.DotEnv

inductive Statement
  | nothing
  | binding (name value : String)
  | malformed
deriving DecidableEq, Inhabited

def skipBlanks (s : List Char) : List Char := s.dropWhile Unicode.isBlank

/-- Letters, digits, underscores and points make up a name, which begins with a letter or an
underscore; only ASCII counts. -/
def isNameChar (c : Char) : Bool := c.isAlphanum || c = '_' || c = '.'

def readName? (s : List Char) : Option (String × List Char) :=
  match s with
  | c :: _ =>
    if c.isAlpha || c = '_' then
      some (String.ofList (s.takeWhile isNameChar), skipBlanks (s.dropWhile isNameChar))
    else none
  | [] => none

/-- The name of a binding, and what follows the equals sign and blanks. The word `export` before a
name is passed over; it can be a name itself. -/
def readTarget? (s : List Char) : Option (String × List Char) :=
  match readName? s with
  | some (name, '=' :: rest) => some (name, skipBlanks rest)
  | some ("export", rest) =>
    match readName? rest with
    | some (name, '=' :: rest) => some (name, skipBlanks rest)
    | _ => none
  | _ => none

/-- Reads an entry. A variable that it mentions has the value that `lookup` gives. -/
def Statement.ofEntry (lookup : String → String) (entry : List Char) : Statement :=
  let s := skipBlanks (entry.reverse.dropWhile Unicode.isBlank).reverse
  if s.isEmpty ∨ s.head? = some '#' then .nothing
  else
    match readTarget? s with
    | none => .malformed
    | some (name, text) =>
      if text.isEmpty ∨ text.head? = some '#' then .binding name ""
      else
        match readValue lookup (.text false) [] text with
        | some value => .binding name (String.ofList value)
        | none => .malformed

/-- The environment after some entries, each bound where it is not set yet and seen by the later
ones. Loading stops at the first malformed entry; a value with a null character in it cannot be
set. -/
def loadEntries (env : Environment) : List (List Char) → Environment × Stop
  | [] => (env, .finished)
  | entry :: rest =>
    match Statement.ofEntry env.value entry with
    | .nothing => loadEntries env rest
    | .binding name value =>
      if (env.get? name).isNone && value.toList.contains '\x00' then (env, .crashed .panic)
      else loadEntries (env.setDefault name value) rest
    | .malformed => (env, .malformed)

/-- The environment after a file, and how loading ends. -/
def load (env : Environment) (file : ByteArray) : Environment × Stop :=
  let read := Entries.ofFile file
  let (env, stop) := loadEntries env read.entries
  (env, if stop = .finished then read.stop else stop)

end RollCall.DotEnv
