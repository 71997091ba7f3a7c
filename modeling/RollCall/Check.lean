import RollCall.Failure
import RollCall.Pattern
import RollCall.Report

/-! One check: both files are read and searched, and the sets of identifiers are compared. -/
namespace RollCall

structure CheckOptions where
  podsFile : ByteArray
  logFile : ByteArray
  pattern : Pattern
  showCounts : Bool

abbrev FileSystem := ByteArray → Except ReadError ByteArray

namespace Pattern

/-- Reads a file and searches it line by line. -/
def scanFile (p : Pattern) (files : FileSystem) (path : ByteArray) : Except Failure Extraction :=
  match files path with
  | .error e => .error (.fileAccess path e)
  | .ok bytes =>
    match p.scanBytes bytes with
    | some x => .ok x
    | none => .error (.fileAccess path .invalidText)

end Pattern

/-- The distinct identifiers of a file, in ascending order. The pattern is made first. -/
def extractIdentifiers (files : FileSystem) (path : ByteArray) (source : String) :
    Except Failure (List String) :=
  match Pattern.ofSource source with
  | .error e => .error (.pattern e)
  | .ok p => (p.scanFile files path).map (·.unique.names)

structure CheckResult where
  report : Report
  /-- The pods file holds no identifier, of which the user is warned. -/
  noPods : Bool

namespace CheckOptions

/-- Reads the pods file, then the log, and compares them. Nothing is reported if either file
cannot be read. -/
def check (o : CheckOptions) (files : FileSystem) (now : Timestamp) :
    Except Failure CheckResult := do
  let pods ← o.pattern.scanFile files o.podsFile
  let requests ← o.pattern.scanFile files o.logFile
  let counts := if o.showCounts then some (Tally.count pods.unique requests.raw) else none
  return {
    report := .build (.of pods.unique requests.unique) o.pattern.source
      (Utf8.display o.podsFile) (Utf8.display o.logFile) counts now
    noPods := pods.isEmpty }

end CheckOptions

end RollCall
