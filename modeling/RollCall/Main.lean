import RollCall.Session
import Std.Time.DateTime.Timestamp

/-! The program: it gathers what a run can see, and writes down what the run answers. -/
namespace RollCall.Main

def splitAtZeros (bytes : ByteArray) : List ByteArray :=
  (bytes.data.toList.foldl
    (fun (done, part) b =>
      if b = 0 then ((⟨part.reverse.toArray⟩ : ByteArray) :: done, [])
      else (done, b :: part))
    (([] : List ByteArray), ([] : List UInt8))).1.reverse

/-- The words after the name of the program, as bytes: they end the command line of the process. -/
def arguments (words : List String) : IO (List ByteArray) :=
  try
    let parts := splitAtZeros (← IO.FS.readBinFile "/proc/self/cmdline")
    return parts.drop (parts.length - words.length)
  catch _ => return words.map String.toUTF8

def binding? (bytes : ByteArray) : Option (String × String) := do
  let text := (← String.fromUTF8? bytes).toList
  match text.dropWhile (· ≠ '=') with
  | _ :: value => some (String.ofList (text.takeWhile (· ≠ '=')), String.ofList value)
  | [] => none

def environment : IO Environment :=
  try return (splitAtZeros (← IO.FS.readBinFile "/proc/self/environ")).filterMap binding?
  catch _ => return []

/-- The number of an error of the operating system; some calls give it with a minus sign. -/
def errorNumber (e : IO.Error) : Nat :=
  let number : UInt32 := match e with
    | .noFileOrDirectory _ n _ | .permissionDenied _ n _ | .inappropriateType _ n _
    | .resourceExhausted _ n _ | .invalidArgument _ n _ | .noSuchThing _ n _
    | .otherError n _ | .hardwareFault n _ | .illegalOperation n _ | .resourceBusy n _ => n
    | _ => 0
  number.toInt32.toInt.natAbs

def readFile (path : ByteArray) : IO (Except ReadError ByteArray) :=
  match String.fromUTF8? path with
  | none => return .error .missing
  | some name =>
    try return .ok (← IO.FS.readBinFile name)
    catch e => return .error ((ReadError.ofNumber? (errorNumber e)).getD .inputOutput)

/-- The nearest file of variables in the directory or one of those around it; `fuel` bounds how
many are looked at. -/
def findVariables : (fuel : Nat) → (directory : String) → IO (Option ByteArray)
  | 0, _ => return none
  | fuel + 1, directory => do
    match ← readFile (directory ++ "/.env").toUTF8 with
    | .ok bytes => return some bytes
    | .error .missing | .error .isDirectory =>
      match directory.toList.reverse.dropWhile (· ≠ '/') with
      | _ :: parent => findVariables fuel (String.ofList parent.reverse)
      | [] => return none
    | .error _ => return none

/-- What the run can see. Only the files that the command line names are read. -/
def surroundings (words : List ByteArray) : IO Surroundings := do
  let paths := match CommandLine.parse words with
    | .ok o => [o.podsFile, o.logFile]
    | .error _ => []
  let contents ← paths.mapM fun path => return (path.data, ← readFile path)
  let now := (← Std.Time.Timestamp.now).val
  let directory ← IO.currentDir
  return {
    arguments := words
    environment := ← environment
    dotEnv := ← findVariables 256 directory.toString
    files := fun path => (contents.lookup path.data).getD (.error .missing)
    now := ⟨now.second.val, now.nano.val.toNat⟩
    terminal := ← (← IO.getStdout).isTty }

end RollCall.Main

def main (words : List String) : IO UInt32 := do
  let outcome := (← RollCall.Main.surroundings (← RollCall.Main.arguments words)).run
  if outcome.warned then
    IO.eprintln ("WARN " ++ RollCall.warningText)
  IO.print outcome.ending.output
  match outcome.ending with
  | .refused (.usage e) =>
    IO.eprintln (e.text ++ "\n\n" ++ RollCall.CommandLine.usageText ++
      "\n\nFor more information, try '--help'.")
  | ending => ending.errorText?.forM IO.eprintln
  return outcome.ending.exitCode.toUInt32
