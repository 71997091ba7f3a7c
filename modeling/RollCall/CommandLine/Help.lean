import RollCall.CommandLine.Argument

/-! The texts that the program shows about itself. -/
namespace RollCall.CommandLine

def programName : String := "reviews-reconcile"

def versionText : String := programName ++ " 0.1.0\n"

def purpose : String := "Verify that every running reviews pod logged at least one request"

def exitCodes : String :=
  "Exits 0 when the running pods and the pods seen in the request log match, " ++
    "1 when they differ or an input cannot be read, 2 on invalid usage."

def usageText : String :=
  "Usage: " ++ programName ++ " [OPTIONS] " ++ " ".intercalate (Argument.paths.map (·.shown))

def description (full : Bool) : Argument → String
  | .podsFile => "File listing the running pods (e.g. \x60kubectl get pods\x60 output)"
  | .logFile => "File with the captured request output"
  | .preset => "Built-in identifier pattern: \x60pod-name\x60 or \x60version\x60"
  | .pattern => "Custom identifier regex; overrides --preset"
  | .counts => "Print how many requests each running pod logged"
  | .format => "Output format: \x60text\x60 or \x60json\x60"
  | .noColor => "Disable colored output"
  | .verbose => "Enable debug logging on stderr"
  | .help =>
    if full then "Print help (see a summary with '-h')"
    else "Print help (see more with '--help')"
  | .version => "Print version"

/-- An argument in the left column: options begin with their letter or with room for one. -/
def column (a : Argument) : String :=
  match a.name?, a.letter? with
  | none, _ => a.shown
  | some _, some c => "-" ++ c.toString ++ ", " ++ a.shown
  | some _, none => "    " ++ a.shown

/-- Arguments with a line each; the descriptions begin in the same column. -/
def shortRows (as : List Argument) : String :=
  let width := (as.map fun a => (column a).length).foldl max 0
  String.join (as.map fun a =>
    "  " ++ column a ++ "".pushn ' ' (width - (column a).length + 2) ++
      description false a ++ "\n")

/-- Arguments with their descriptions on lines of their own, and empty lines between. -/
def fullRows (as : List Argument) : String :=
  "\n".intercalate (as.map fun a =>
    "  " ++ column a ++ "\n" ++ "".pushn ' ' 10 ++ description true a ++ "\n")

def helpText (full : Bool) : String :=
  let rows := if full then fullRows else shortRows
  let head := if full then purpose ++ ".\n\n" ++ exitCodes else purpose
  head ++ "\n\n" ++ usageText ++ "\n\nArguments:\n" ++ rows Argument.paths ++
    "\nOptions:\n" ++ rows Argument.options

end RollCall.CommandLine
