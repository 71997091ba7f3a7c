import RollCall.Pattern
import RollCall.Report

/-! What a command line may hold: two paths by position, and options by name. -/
namespace RollCall

inductive Argument
  | podsFile | logFile
  | preset | pattern | counts | format | noColor | verbose
  | help | version
deriving DecidableEq, Inhabited

namespace Argument

def paths : List Argument := [podsFile, logFile]

def options : List Argument := [preset, pattern, counts, format, noColor, verbose, help, version]

def name? : Argument → Option String
  | .podsFile | .logFile => none
  | .preset => some "preset"
  | .pattern => some "pattern"
  | .counts => some "counts"
  | .format => some "format"
  | .noColor => some "no-color"
  | .verbose => some "verbose"
  | .help => some "help"
  | .version => some "version"

def letter? : Argument → Option Char
  | .verbose => some 'v'
  | .help => some 'h'
  | .version => some 'V'
  | _ => none

/-- What the value of an argument is called, if it takes one. -/
def valueName? : Argument → Option String
  | .podsFile => some "PODS_FILE"
  | .logFile => some "CURL_OUTPUT_FILE"
  | .preset => some "PRESET"
  | .pattern => some "REGEX"
  | .format => some "FORMAT"
  | _ => none

def takesValue (a : Argument) : Bool := a.valueName?.isSome

def ofName? (name : String) : Option Argument := options.find? (·.name? = some name)

def ofLetter? (c : Char) : Option Argument := options.find? (·.letter? = some c)

/-- How an argument is shown: its name, and the name of its value in angle brackets. -/
def shown (a : Argument) : String :=
  match a.name?, a.valueName? with
  | some n, some v => "--" ++ n ++ " <" ++ v ++ ">"
  | some n, none => "--" ++ n
  | none, some v => "<" ++ v ++ ">"
  | none, none => ""

end Argument

structure Options where
  podsFile : ByteArray
  logFile : ByteArray
  preset : Option Preset := none
  pattern : Option String := none
  counts : Bool := false
  format : Option OutputFormat := none
  noColor : Bool := false
  verbose : Bool := false

inductive UsageError
  | unexpectedArgument (shown : String)
  /-- A value is given to an option that takes none. -/
  | unexpectedValue (value : String) (argument : Argument)
  | missingValue (argument : Argument)
  /-- The value is none of the choices. -/
  | unknownChoice (value : String) (argument : Argument)
  | repeated (argument : Argument)
  | missingPaths (missing : List Argument)
  /-- A value that has to be text is none. -/
  | invalidText
deriving DecidableEq, Inhabited

namespace UsageError

def message : UsageError → String
  | .unexpectedArgument shown => "unexpected argument '" ++ shown ++ "' found"
  | .unexpectedValue value a =>
    "unexpected value '" ++ value ++ "' for '" ++ a.shown ++ "' found; no more were expected"
  | .missingValue a => "a value is required for '" ++ a.shown ++ "' but none was supplied"
  | .unknownChoice value a =>
    "invalid value '" ++ value ++ "' for '" ++ a.shown ++ "': Matching variant not found"
  | .repeated a => "the argument '" ++ a.shown ++ "' cannot be used multiple times"
  | .missingPaths missing =>
    "the following required arguments were not provided:" ++
      String.join (missing.map fun a => "\n  " ++ a.shown)
  | .invalidText => "invalid UTF-8 was detected in one or more arguments"

def text (e : UsageError) : String := "error: " ++ e.message

end UsageError

/-- Why a command line does not lead to a run. -/
inductive Refusal
  /-- Help is asked for, in full or in short. -/
  | help (full : Bool)
  | version
  | usage (e : UsageError)
deriving DecidableEq, Inhabited

/-- Asking for help is no error. -/
def Refusal.exitCode : Refusal → Nat
  | .help _ | .version => 0
  | .usage _ => 2

end RollCall
