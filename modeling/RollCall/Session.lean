import RollCall.Check
import RollCall.CommandLine.Help
import RollCall.CommandLine.Reader
import RollCall.DotEnv.Basic
import RollCall.LogFilter
import RollCall.Settings.Basic

/-! A whole run of the program, as a function of everything that it can see. -/
namespace RollCall

namespace Options

/-- The pattern: one's own before a preset, and each from the command line before the settings. -/
def choosePattern (o : Options) (s : Settings) : Except Failure Pattern :=
  let source := match o.pattern <|> s.pattern with
    | some own => if own.isEmpty then none else some own
    | none => some (o.preset.getD s.preset).source
  match source with
  | none => .error (.invalidArguments "pattern must not be empty")
  | some source => (Pattern.ofSource source).mapError .pattern

def checkOptions (o : Options) (s : Settings) : Except Failure CheckOptions :=
  (o.choosePattern s).map fun pattern =>
    { podsFile := o.podsFile, logFile := o.logFile, pattern
      showCounts := o.counts || s.showCounts }

def outputFormat (o : Options) (s : Settings) : OutputFormat := o.format.getD s.format

def useColor (o : Options) (s : Settings) : Bool := !o.noColor && s.color

end Options

/-- What a run can see. -/
structure Surroundings where
  /-- The words after the name of the program. -/
  arguments : List ByteArray
  environment : Environment
  /-- A file of variables, if there is one. -/
  dotEnv : Option ByteArray
  files : FileSystem
  now : Timestamp
  /-- Whether the output goes to a terminal. -/
  terminal : Bool
  machine : Machine := default

inductive Ending
  /-- The command line does not lead to a check. -/
  | refused (r : Refusal)
  | failed (f : Failure)
  | crashed (c : Crash)
  /-- A report was written; `success` says that the sets of identifiers agree. -/
  | reported (text : String) (success : Bool)

namespace Ending

/-- 0 for agreement, help and version; 1 for a difference. -/
def exitCode : Ending → Nat
  | .refused r => r.exitCode
  | .failed f => f.exitCode
  | .crashed c => c.exitCode
  | .reported _ success => if success then 0 else 1

def output : Ending → String
  | .refused (.help full) => CommandLine.helpText full
  | .refused .version => CommandLine.versionText
  | .refused (.usage _) | .failed _ | .crashed _ => ""
  | .reported text _ => text

def errorText? : Ending → Option String
  | .refused (.usage e) => some e.text
  | .failed f => some ("Error: " ++ f.chain)
  | .refused (.help _) | .refused .version | .crashed _ | .reported _ _ => none

def ofObstacle : Settings.Obstacle → Ending
  | .invalid e => .failed (.settings e.message)
  | .crash c => .crashed c

end Ending

structure Outcome where
  ending : Ending
  /-- The user was warned that the pods file holds no identifier. -/
  warned : Bool

def warningText : String := "No pods matched the pattern in the pods file"

/-- The warning as an event of the log, within the span of the check. -/
def warningEvent (o : CheckOptions) : LogFilter.Event where
  level := .warn
  target := "reviews_reconcile::reconcile"
  fields := ["message"]
  spanLevel := .info
  spanName := "run_check"
  spanFields :=
    [("pods_file", Utf8.display o.podsFile), ("log_file", Utf8.display o.logFile)]

def filterVariable : String := "RUST_LOG"

/-- Whether the environment lets text be coloured: it can be forced, and otherwise needs a terminal
and no variable against it. -/
def Environment.allowsColor (env : Environment) (terminal : Bool) : Bool :=
  if (env.get? "CLICOLOR_FORCE").any (· ≠ "0") then true
  else terminal && (env.get? "NO_COLOR").isNone && (env.get? "CLICOLOR").all (· ≠ "0")

namespace Surroundings

/-- The environment with the variables of the file, and how loading these ends. -/
def loadVariables (s : Surroundings) : Environment × DotEnv.Stop :=
  match s.dotEnv with
  | some file => DotEnv.load s.environment file
  | none => (s.environment, .finished)

def fullEnvironment (s : Surroundings) : Environment := s.loadVariables.1

/-- The settings of the run. A file of variables that is malformed is not complained of. -/
def settings (s : Surroundings) : Except Settings.Obstacle Settings :=
  match s.loadVariables.2 with
  | .crashed c => .error (.crash c)
  | .finished | .malformed => Settings.ofEnvironment s.machine s.fullEnvironment

/-- The check that the options ask for, the report, and whether it comes with the warning; or how
the run ends without them. Settings are loaded before the pattern is made, and the pattern before a
file is read. -/
def check (s : Surroundings) (o : Options) : Except Ending Outcome := do
  let settings ← s.settings.mapError .ofObstacle
  let options ← (o.checkOptions settings).mapError .failed
  let result ← (options.check s.files s.now).mapError .failed
  let env := s.fullEnvironment
  let color := o.useColor settings && env.allowsColor s.terminal
  let filter := LogFilter.ofSetting (env.get? filterVariable) (if o.verbose then .debug else .warn)
  return {
    ending := .reported (result.report.render (o.outputFormat settings) color)
      result.report.success
    warned := result.noPods && filter.passes (warningEvent options) }

def run (s : Surroundings) : Outcome :=
  match CommandLine.parse s.arguments with
  | .error r => ⟨.refused r, false⟩
  | .ok o =>
    match s.check o with
    | .error ending => ⟨ending, false⟩
    | .ok outcome => outcome

end Surroundings

end RollCall
