import RollCall.Regex.Parser
import RollCall.Regex.Search
import RollCall.Roster
import RollCall.Text

/-! Patterns that pick identifiers out of text: the first capture group of each match if the
pattern has groups, and the whole match if it has none. A text or a file is searched line by
line. -/
namespace RollCall

open Regex (PatternError)

inductive Preset
  /-- Full pod names. -/
  | podName
  /-- The version of the service only. -/
  | version
deriving DecidableEq, Inhabited

namespace Preset

def name : Preset → String
  | .podName => "pod-name"
  | .version => "version"

def source : Preset → String
  | .podName => "reviews[a-z0-9-]+"
  | .version => "reviews-v[123]"

def ofName? (name : String) : Option Preset :=
  [podName, version].find? (·.name == name)

end Preset

structure Pattern where
  source : String
  /-- Whether the first capture group marks the identifier. -/
  grouped : Bool
  program : Regex.Program

namespace Pattern

/-- The machine for a pattern may take at most this much room, in bytes, by the estimate. -/
def sizeLimit : Nat := 10485760

def ofExpr (source : String) (e : Regex.Expr) : Except PatternError Pattern :=
  if sizeLimit < e.footprint then .error .tooLarge
  else .ok ⟨source, e.hasGroup, e.program⟩

def ofSource (source : String) : Except PatternError Pattern := do
  ofExpr source (← Regex.parse source.toList)

/-- The part of a match that is the identifier, if the match has one. -/
def identifierSpan (p : Pattern) (m : Regex.Match) : Option Regex.Span :=
  if p.grouped then m.group else some m.span

/-- The spans of the identifiers in a text. Empty ones are left out. -/
def identifierSpans (p : Pattern) (hay : Array Char) : List Regex.Span :=
  ((Regex.allMatches p.program hay).filterMap p.identifierSpan).filter fun s => s.start < s.stop

/-- The identifiers in a text, left to right, each as often as it occurs. -/
def identifiers (p : Pattern) (text : String) : List String :=
  let hay := text.toList.toArray
  (p.identifierSpans hay).map fun s => String.ofList (hay.extract s.start s.stop).toList

end Pattern

/-- What was found: every identifier in order, repetitions included, and the set of them. -/
structure Extraction where
  raw : List String

namespace Extraction

def unique (x : Extraction) : Roster := .ofList x.raw

def isEmpty (x : Extraction) : Bool := x.raw.isEmpty

end Extraction

namespace Pattern

/-- Searches each line of a text on its own. -/
def scan (p : Pattern) (text : String) : Extraction :=
  ⟨(Lines.ofText text).flatMap p.identifiers⟩

/-- Searches each line of a file on its own; `none` if some line is not valid UTF-8. -/
def scanBytes (p : Pattern) (bytes : ByteArray) : Option Extraction := do
  let lines ← (Lines.ofBytes bytes).mapM String.fromUTF8?
  return ⟨lines.flatMap p.identifiers⟩

end Pattern

end RollCall
