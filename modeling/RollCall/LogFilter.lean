import RollCall.Settings.Scalar
import RollCall.Unicode.Query

/-! Which log events are shown. A filter is a list of directives, each a level for the events of
some part of the program; the most specific directive for an event decides. -/
namespace RollCall

inductive LogLevel
  | off | error | warn | info | debug | trace
deriving DecidableEq, Inhabited

namespace LogLevel

def rank : LogLevel → Nat
  | .off => 0
  | .error => 1
  | .warn => 2
  | .info => 3
  | .debug => 4
  | .trace => 5

def name : LogLevel → String
  | .off => "off"
  | .error => "error"
  | .warn => "warn"
  | .info => "info"
  | .debug => "debug"
  | .trace => "trace"

def all : List LogLevel := [off, error, warn, info, debug, trace]

/-- A level by its number, perhaps with a plus sign, or by its name in any case. -/
def ofText? (text : List Char) : Option LogLevel :=
  let digits := match text with
    | '+' :: digits => digits
    | digits => digits
  if !digits.isEmpty ∧ digits.all Char.isDigit then
    all.find? (·.rank = Settings.digitsValue digits)
  else all.find? (·.name.toList = text.map Char.toLower)

end LogLevel

/-- A level for the events of a part of the program: those whose target begins in a given way, or
that are logged within a span of a given name, or with a given field. A field can have a value. -/
structure LogDirective where
  target : Option String := none
  span : Option String := none
  field : Option (String × Option String) := none
  level : LogLevel := .trace
deriving DecidableEq, Inhabited

namespace LogDirective

def withLevel? (d : LogDirective) (text : List Char) : Option LogDirective :=
  if text.isEmpty then some d
  else (LogLevel.ofText? text).map fun level => { d with level := level }

def readEnd? (d : LogDirective) : List Char → Option LogDirective
  | '=' :: level => d.withLevel? level
  | rest => if rest.all Unicode.isBlank then some d else none

/-- A span after its opening bracket: a name, and a field in braces. -/
def readSpan? (d : LogDirective) (text : List Char) : Option LogDirective :=
  let name := text.takeWhile fun c => c ≠ ']' ∧ c ≠ '{'
  let span := String.ofList name
  match text.dropWhile fun c => c ≠ ']' ∧ c ≠ '{' with
  | ']' :: rest => { d with span := some span }.readEnd? rest
  | '{' :: rest =>
    let field := rest.takeWhile (· ≠ '}')
    let fieldName := String.ofList (field.takeWhile (· ≠ '='))
    let value := match field.dropWhile (· ≠ '=') with
      | [] => none
      | _ :: value => some (String.ofList (value.takeWhile (· ≠ '=')))
    match field, rest.dropWhile (· ≠ '}') with
    | _ :: _, '}' :: ']' :: rest =>
      { d with
        span := if name.isEmpty then none else some span
        field := some (fieldName, value) }.readEnd? rest
    | _, _ => none
  | _ => none

/-- A directive: a level, or a target, a span in brackets, or both, with a level after an equals
sign. What is no level is a target, and blanks belong to it. -/
def ofText? (text : List Char) : Option LogDirective :=
  let isMark (c : Char) : Bool := c = '=' || c = '['
  let name := text.takeWhile (!isMark ·)
  let isStart (c : Char) : Bool := Unicode.isAlphanumeric c || c = '-' || c = ':' || c = '_'
  match text.dropWhile (!isMark ·) with
  | [] =>
    match LogLevel.ofText? text with
    | some level => some { level }
    | none =>
      if (text.dropWhile Unicode.isBlank).head?.any isStart then
        some { target := some (String.ofList text) }
      else none
  | mark :: rest =>
    let isSpan := mark = '['
    match name.head? with
    | none => if isSpan then LogDirective.readSpan? {} rest else none
    | some c =>
      let d : LogDirective := { target := some (String.ofList name) }
      if !isStart c then none else if isSpan then d.readSpan? rest else d.withLevel? rest

/-- The directives that differ from `d` in more than the level. -/
def isOther (d e : LogDirective) : Bool :=
  d.target ≠ e.target || d.span ≠ e.span || d.field ≠ e.field

def covers (d : LogDirective) (target : String) : Bool :=
  d.target.all fun start => start.toList.isPrefixOf target.toList

/-- How closely a directive describes an event: by the length of its target, then by its field. -/
def closeness (d : LogDirective) : Nat :=
  2 * (d.target.elim 0 fun t => t.utf8ByteSize + 1) + (if d.field.isSome then 1 else 0)

end LogDirective

/-- Directives, no two of them for the same part of the program. -/
abbrev LogFilter := List LogDirective

namespace LogFilter

/-- A later directive replaces an earlier one for the same part. -/
def ofDirectives (ds : List LogDirective) : LogFilter :=
  ds.foldl (fun kept d => kept.filter (·.isOther d) ++ [d]) []

/-- Directives between commas; none at all let errors pass. -/
def ofText? (text : String) : Option LogFilter :=
  (((text.splitOn ",").filter (· ≠ "")).mapM fun d => LogDirective.ofText? d.toList).map fun ds =>
    if ds.isEmpty then [{ level := .error }] else ofDirectives ds

/-- The filter of a text, if there is one and it is well formed; otherwise the one of a level. -/
def ofSetting (text : Option String) (default : LogLevel) : LogFilter :=
  (text.bind ofText?).getD [{ level := default }]

def ceiling (f : LogFilter) : Nat :=
  if f.any fun d => d.field.any (·.2.isSome) then LogLevel.trace.rank
  else (f.map (·.level.rank)).foldl max 0

/-- An event: its level and target, the names of its fields, and the span around it, which has a
level, a name and the same target. -/
structure Event where
  level : LogLevel
  target : String
  fields : List String
  spanLevel : LogLevel
  spanName : String
  spanFields : List (String × String)

/-- Whether a directive about spans or fields lets everything within the span pass. -/
def passesSpan (f : LogFilter) (e : Event) : Bool :=
  e.spanLevel.rank ≤ f.ceiling && f.any fun d =>
    (d.span.isSome || d.field.isSome) && d.covers e.target && d.span.all (· = e.spanName) &&
      (d.field.all fun (name, value) =>
        (e.spanFields.lookup name).any fun actual => value.all (· = actual)) &&
      e.level.rank ≤ d.level.rank

/-- The directive that describes the event most closely, of those that look at the event alone. -/
def closest? (f : LogFilter) (e : Event) : Option LogDirective :=
  let fitting := f.filter fun d =>
    d.span.isNone && d.covers e.target &&
      d.field.all fun (name, value) => value.isNone && e.fields.contains name
  fitting.foldl (fun best d =>
    if best.any fun b => d.closeness < b.closeness then best else some d) none

def passes (f : LogFilter) (e : Event) : Bool :=
  f.passesSpan e || (f.closest? e).any fun d => e.level.rank ≤ d.level.rank

end LogFilter

end RollCall
