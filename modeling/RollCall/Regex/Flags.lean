import RollCall.Regex.Expr
import RollCall.Unicode.CaseMap
import RollCall.Unicode.Query

/-! The flags of a pattern, and what they make of characters, sets, the dot and assertions. -/
namespace RollCall.Regex

inductive PatternError
  | malformed
  /-- The pattern is well formed, but the machine for it would be too large. -/
  | tooLarge
deriving DecidableEq, Inhabited

structure Flags where
  ignoreCase : Bool := false
  multiLine : Bool := false
  dotNewline : Bool := false
  swapGreed : Bool := false
  unicode : Bool := true
  crlf : Bool := false
  /-- Blanks and comments in the pattern are skipped. -/
  extended : Bool := false
deriving DecidableEq, Inhabited

namespace Flags

def set? (f : Flags) (letter : Char) (value : Bool) : Option Flags :=
  match letter with
  | 'i' => some { f with ignoreCase := value }
  | 'm' => some { f with multiLine := value }
  | 's' => some { f with dotNewline := value }
  | 'U' => some { f with swapGreed := value }
  | 'u' => some { f with unicode := value }
  | 'R' => some { f with crlf := value }
  | 'x' => some { f with extended := value }
  | _ => none

def closeCase (f : Flags) (s : CharSet) : CharSet :=
  if !f.ignoreCase then s
  else if f.unicode then Unicode.caseClosure s
  else Unicode.asciiCaseClosure s

/-- A set or, if `negated`, its complement. Without `unicode`, a class may hold ASCII characters
only, so none can be negated. -/
def negate? (f : Flags) (negated : Bool) (s : CharSet) : Except PatternError CharSet :=
  if !negated then .ok s
  else if f.unicode then .ok s.complement
  else .error .malformed

/-- The set of a class under the flags: case is closed first, then the class is negated. -/
def finishSet (f : Flags) (negated : Bool) (s : CharSet) : Except PatternError CharSet :=
  f.negate? negated (f.closeCase s)

/-- The class of characters that a letter after a backslash names. -/
def letterClass (f : Flags) (letter : Char) : CharSet :=
  match letter, f.unicode with
  | 'd', true => Unicode.digits
  | 's', true => Unicode.blanks
  | _, true => Unicode.wordChars
  | 'd', false => .range '0' '9'
  | 's', false => ⟨[⟨9, 13⟩, ⟨32, 32⟩]⟩
  | _, false => ⟨[⟨0x30, 0x39⟩, ⟨0x41, 0x5A⟩, ⟨0x5F, 0x5F⟩, ⟨0x61, 0x7A⟩]⟩

def literal (f : Flags) (c : Char) : Expr :=
  if !f.ignoreCase then .text [c]
  else if f.unicode then
    if Unicode.hasCaseVariant c then .ofSet (Unicode.caseClosure (.singleton c)) else .text [c]
  else if c.isAlpha then .ofSet (Unicode.asciiCaseClosure (.singleton c))
  else .text [c]

/-- Without `unicode` the dot would match single bytes, which no text can be cut into. -/
def dot (f : Flags) : Except PatternError Expr :=
  if !f.unicode then .error .malformed
  else if f.dotNewline then .ok (.set .any)
  else if f.crlf then
    .ok (.set (.complement ⟨[⟨10, 10⟩, ⟨13, 13⟩]⟩))
  else .ok (.set (.complement ⟨[⟨10, 10⟩]⟩))

def startAssertion (f : Flags) : Look :=
  if !f.multiLine then .textStart else if f.crlf then .lineStartCrlf else .lineStart

def endAssertion (f : Flags) : Look :=
  if !f.multiLine then .textEnd else if f.crlf then .lineEndCrlf else .lineEnd

def wordAssertion (f : Flags) (edge : WordEdge) : Look := .word edge (!f.unicode)

end Flags

end RollCall.Regex
