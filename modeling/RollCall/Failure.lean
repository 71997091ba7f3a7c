import RollCall.Regex.Flags
import RollCall.Text

/-! Everything that can end a run, with its message and the exit status of the program. -/
namespace RollCall

inductive ReadError
  | notPermitted
  | missing
  | inputOutput
  | accessDenied
  | notDirectory
  | isDirectory
  | nameTooLong
  /-- The bytes are no text. -/
  | invalidText
deriving DecidableEq, Inhabited

namespace ReadError

/-- The number that the operating system gives to the error; ill-formed text has none. -/
def number? : ReadError → Option Nat
  | .notPermitted => some 1
  | .missing => some 2
  | .inputOutput => some 5
  | .accessDenied => some 13
  | .notDirectory => some 20
  | .isDirectory => some 21
  | .nameTooLong => some 36
  | .invalidText => none

def ofNumber? (n : Nat) : Option ReadError :=
  [notPermitted, missing, inputOutput, accessDenied, notDirectory, isDirectory,
    nameTooLong].find?
    (·.number? = some n)

def description : ReadError → String
  | .notPermitted => "Operation not permitted"
  | .missing => "No such file or directory"
  | .inputOutput => "Input/output error"
  | .accessDenied => "Permission denied"
  | .notDirectory => "Not a directory"
  | .isDirectory => "Is a directory"
  | .nameTooLong => "File name too long"
  | .invalidText => "stream did not contain valid UTF-8"

def message (e : ReadError) : String :=
  match e.number? with
  | some n => e.description ++ " (os error " ++ String.ofList (Nat.toDigits 10 n) ++ ")"
  | none => e.description

end ReadError

inductive Failure
  | invalidArguments (reason : String)
  | fileAccess (path : ByteArray) (error : ReadError)
  | pattern (error : Regex.PatternError)
  | settings (reason : String)

namespace Failure

def message : Failure → String
  | .invalidArguments reason => "Invalid arguments: " ++ reason
  | .fileAccess path _ => "Could not read file " ++ Utf8.display path
  | .pattern _ => "Invalid pattern"
  | .settings reason => "Configuration error: " ++ reason

def cause? : Failure → Option String
  | .fileAccess _ error => some error.message
  | .pattern .malformed => some "regex parse error:"
  | .pattern .tooLarge => some "Compiled regex exceeds size limit of 10485760 bytes."
  | .invalidArguments _ | .settings _ => none

/-- Every message from the outermost context to the cause, as one line. Settings can be wrong only
while they are loaded. -/
def chain (f : Failure) : String :=
  let context := match f with
    | .settings _ => "Failed to load configuration: "
    | _ => ""
  context ++ f.message ++ (f.cause?.elim "" fun cause => ": " ++ cause)

def isNotFound : Failure → Bool
  | .fileAccess _ .missing => true
  | _ => false

/-- 2 for a wrong invocation or wrong settings, 1 for all else. -/
def exitCode : Failure → Nat
  | .invalidArguments _ | .settings _ => 2
  | .fileAccess _ _ | .pattern _ => 1

end Failure

end RollCall
