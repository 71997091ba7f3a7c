import RollCall.Comparison
import RollCall.Json
import RollCall.Text
import RollCall.Timestamp

/-! The report of a comparison, as lines of text or as a document. -/
namespace RollCall

inductive OutputFormat
  | text | json
deriving DecidableEq, Inhabited

namespace OutputFormat

def name : OutputFormat → String
  | .text => "text"
  | .json => "json"

def ofName? (name : String) : Option OutputFormat :=
  [text, json].find? (·.name == name)

end OutputFormat

structure Report where
  success : Bool
  pattern : String
  podsFile : String
  logFile : String
  expected : List String
  observed : List String
  missing : List String
  unexpected : List String
  occurrences : Option Tally
  checkedAt : Timestamp
deriving DecidableEq

namespace Report

def build (c : Comparison) (pattern podsFile logFile : String) (occurrences : Option Tally)
    (checkedAt : Timestamp) : Report where
  success := c.isMatch
  pattern := pattern
  podsFile := podsFile
  logFile := logFile
  expected := c.expected.names
  observed := c.observed.names
  missing := c.missing.names
  unexpected := c.unexpected.names
  occurrences := occurrences
  checkedAt := checkedAt

/-- The sequence that ends a colour. -/
def colorReset : List Char := ['\x1b', '[', '0', 'm']

/-- Takes up a colour again after each place where the text itself ends it. -/
def resumeColor (start : List Char) : List Char → List Char
  | '\x1b' :: '[' :: '0' :: 'm' :: rest => colorReset ++ start ++ resumeColor start rest
  | c :: rest => c :: resumeColor start rest
  | [] => []

def paint (color : Bool) (number : String) (text : List Char) : List Char :=
  if color then
    let start := ['\x1b', '['] ++ number.toList ++ ['m']
    start ++ resumeColor start text ++ colorReset
  else text

def listLine (label : String) (names : List String) : List Char :=
  label.toList ++ [':', ' '] ++ Quoted.quoteList names ++ ['\n']

/-- The line of a list, but nothing for an empty one. -/
def optionalLine (label : String) (names : List String) : List Char :=
  if names.isEmpty then [] else listLine label names

/-- A line that counts the requests of a pod, in yellow if there were none. -/
def countLine (color : Bool) (name : String) (n : Nat) : List Char :=
  let line := [' ', ' '] ++ name.toList ++ [':', ' '] ++ Nat.toDigits 10 n
  (if n = 0 then paint color "33" line else line) ++ ['\n']

/-- The verdict, and the lists if the sets differ. -/
def verdictLines (color : Bool) (r : Report) : List Char :=
  if r.success then paint color "92" "SUCCESS!".toList ++ ['\n']
  else
    paint color "91" "FAILURE!".toList ++ ['\n'] ++
    listLine "Running pods" r.expected ++
    listLine "Pods that logged requests" r.observed ++
    optionalLine "Missing" r.missing ++
    optionalLine "Unexpected" r.unexpected

def countLines (color : Bool) (r : Report) : List Char :=
  match r.occurrences with
  | none => []
  | some tally =>
    "Requests per pod:\n".toList ++ tally.flatMap fun (name, n) => countLine color name n

def writeText (color : Bool) (r : Report) : String :=
  String.ofList (r.verdictLines color ++ r.countLines color)

/-- The report as a document; counts are left out if they were not taken. -/
def toJson (r : Report) : Json :=
  let list (names : List String) := Json.array (names.map .string)
  .object <|
    [("success", .bool r.success), ("pattern", .string r.pattern),
      ("pods_file", .string r.podsFile), ("log_file", .string r.logFile),
      ("expected", list r.expected), ("observed", list r.observed),
      ("missing", list r.missing), ("unexpected", list r.unexpected)] ++
    (match r.occurrences with
      | none => []
      | some tally => [("occurrences", .object (tally.map fun (name, n) => (name, .nat n)))]) ++
    [("checked_at", .string r.checkedAt.written)]

/-- The report in a format; `color` matters for lines of text only. -/
def render (format : OutputFormat) (color : Bool) (r : Report) : String :=
  match format with
  | .text => r.writeText color
  | .json => r.toJson.write ++ "\n"

end Report

end RollCall
