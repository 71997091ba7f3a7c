import RollCall.Text

/-! The names of variables that hold settings. After a fixed beginning, in any case, a name is a
path: a key, and further keys after points or numbers in brackets. -/
namespace RollCall.Settings

def nameStart : String := "reconcile_"

/-- A step from a setting into its parts. -/
inductive Step
  | key (name : String)
  | index (i : Int)
deriving DecidableEq, Inhabited

/-- The setting that a variable belongs to, and where in it the value goes. -/
structure Name where
  root : String
  steps : List Step
deriving DecidableEq, Inhabited

def isKeyChar (c : Char) : Bool := c.isAlphanum || c = '_' || c = '-' || c = ' '

/-- A number in brackets, with blanks around it, and the text after the bracket. -/
def readIndex? (cs : List Char) : Option (Int × List Char) :=
  let isSpace (c : Char) : Bool := c = ' ' || c = '\t'
  let cs := cs.dropWhile isSpace
  let (negative, cs) := match cs with | '-' :: cs => (true, cs) | cs => (false, cs)
  let digits := cs.takeWhile Char.isDigit
  match (cs.dropWhile Char.isDigit).dropWhile isSpace with
  | ']' :: rest =>
    let n : Int := digits.foldl (fun n c => 10 * n + (c.toNat - 48)) 0
    let i := if negative then -n else n
    if digits.isEmpty ∨ i < Int64.minValue.toInt ∨ Int64.maxValue.toInt < i then none
    else some (i, rest)
  | _ => none

/-- The steps of a path; every step takes at least one character. -/
def readSteps? : Nat → List Char → Option (List Step)
  | _, [] => some []
  | fuel + 1, '.' :: cs =>
    let key := cs.takeWhile isKeyChar
    if key.isEmpty then none
    else (readSteps? fuel (cs.dropWhile isKeyChar)).map (.key (String.ofList key) :: ·)
  | fuel + 1, '[' :: cs =>
    (readIndex? cs).bind fun (i, rest) => (readSteps? fuel rest).map (.index i :: ·)
  | _, _ => none

/-- A name as a path; if it is none, all of it is one key. -/
def Name.ofPath (path : String) : Name :=
  let cs := path.toList
  let root := cs.takeWhile isKeyChar
  match readSteps? cs.length (cs.dropWhile isKeyChar) with
  | some steps => if root.isEmpty then ⟨path, []⟩ else ⟨String.ofList root, steps⟩
  | none => ⟨path, []⟩

/-- The path in the name of a variable that holds a setting, in lower case. -/
def pathOf? (variableName : String) : Option String :=
  let lower := (LowerCase.ofText variableName).toList
  let start := nameStart.toList
  if start.isPrefixOf lower then some (String.ofList (lower.drop start.length)) else none

end RollCall.Settings
