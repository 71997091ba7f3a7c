import RollCall.Regex.Flags

/-! What a backslash and the characters after it stand for. Where the pattern may hold blanks and
comments, they may also stand between the parts of an escape. -/
namespace RollCall.Regex

/-- The text after blanks and comments; a comment runs from `#` to the end of its line. -/
def skipBlanks : (inComment : Bool) → List Char → List Char
  | _, [] => []
  | true, c :: rest => skipBlanks (c ≠ '\n') rest
  | false, c :: rest =>
    if Unicode.isBlank c then skipBlanks false rest
    else if c = '#' then skipBlanks true rest
    else c :: rest

/-- The text after what the flags allow to be skipped. -/
def Flags.skip (f : Flags) (cs : List Char) : List Char :=
  if f.extended then skipBlanks false cs else cs

inductive Primitive
  /-- A character; `isByte` if it was written as a two-digit code. -/
  | literal (c : Char) (isByte : Bool)
  | set (s : CharSet)
  | look (l : Look)
  | dot
deriving DecidableEq, Inhabited

def charOfCode? (n : Nat) : Option Char :=
  if n < 0xD800 ∨ (0xDFFF < n ∧ n ≤ CharSet.maxCode) then some (Char.ofNat n) else none

def hexDigit? (c : Char) : Option Nat :=
  if '0' ≤ c ∧ c ≤ '9' then some (c.toNat - 0x30)
  else if 'a' ≤ c ∧ c ≤ 'f' then some (c.toNat - 0x57)
  else if 'A' ≤ c ∧ c ≤ 'F' then some (c.toNat - 0x37)
  else none

/-- Characters that must be escaped to stand for themselves somewhere in a pattern. -/
def metaChars : List Char := "\\.+*?()|[]\x7b\x7d^$#&-~".toList

/-- Besides those, every ASCII character may be escaped but letters, digits and the angle
brackets, which have escapes of their own. -/
def escapable (c : Char) : Bool :=
  metaChars.contains c || (c.toNat < 0x80 && !c.isAlphanum && c ≠ '<' && c ≠ '>')

def hexDigits (f : Flags) : Nat → (value : Nat) → List Char →
    Except PatternError (Nat × List Char)
  | 0, value, cs => .ok (value, cs)
  | _ + 1, _, [] => .error .malformed
  | n + 1, value, c :: cs =>
    match hexDigit? c with
    | some d => hexDigits f n (16 * value + d) (f.skip cs)
    | none => .error .malformed

/-- The characters up to the closing brace, without what may be skipped, and the text after it. -/
def upToBrace (f : Flags) :
    Nat → List Char → List Char → Except PatternError (List Char × List Char)
  | 0, _, _ => .error .malformed
  | fuel + 1, found, cs =>
    match f.skip cs with
    | [] => .error .malformed
    | '\x7d' :: rest => .ok (found.reverse, rest)
    | c :: rest => upToBrace f fuel (c :: found) rest

/-- A character by its code: in braces, or with the number of digits that goes with the letter. -/
def hexEscape (f : Flags) (letter : Char) (cs : List Char) :
    Except PatternError (Primitive × List Char) :=
  match f.skip cs with
  | '\x7b' :: cs => do
    let (digits, rest) ← upToBrace f (cs.length + 1) [] cs
    if digits.isEmpty then .error .malformed
    match digits.mapM hexDigit? with
    | none => .error .malformed
    | some values =>
      match charOfCode? (values.foldl (fun n d => 16 * n + d) 0) with
      | some c => .ok (.literal c false, f.skip rest)
      | none => .error .malformed
  | cs => do
    let count := if letter = 'x' then 2 else if letter = 'u' then 4 else 8
    let (value, rest) ← hexDigits f count 0 cs
    match charOfCode? value with
    | some c => .ok (.literal c (letter = 'x'), rest)
    | none => .error .malformed

/-- The parts of a list before and after the first place where `sep` stands. -/
def cutAt (sep : List Char) : List Char → Option (List Char × List Char)
  | [] => none
  | c :: cs =>
    if sep.isPrefixOf (c :: cs) then some ([], (c :: cs).drop sep.length)
    else (cutAt sep cs).map fun (a, b) => (c :: a, b)

/-- A set by its name, with or without a value. The sign for inequality is like an equals sign;
only the letter of the escape can negate. -/
def namedSet? (name : List Char) : Option CharSet :=
  match (cutAt ['!', '='] name <|> cutAt [':'] name) <|> cutAt ['='] name with
  | some (property, value) => Unicode.valued? property value
  | none => Unicode.named? name

/-- A property of characters, in braces or by one letter. -/
def propertyEscape (f : Flags) (negated : Bool) (cs : List Char) :
    Except PatternError (Primitive × List Char) := do
  let (name, rest) ←
    match f.skip cs with
    | [] => .error .malformed
    | '\x7b' :: cs => upToBrace f (cs.length + 1) [] cs
    | '\\' :: _ => .error .malformed
    | c :: cs => .ok ([c], f.skip cs)
  if !f.unicode then .error .malformed
  match namedSet? name with
  | some s => return (.set (← f.finishSet negated s), rest)
  | none => .error .malformed

/-- The letters and dashes from here on, without what may be skipped between them. -/
def edgeName (f : Flags) : Nat → List Char → List Char → List Char × List Char
  | 0, found, cs => (found.reverse, cs)
  | _ + 1, found, [] => (found.reverse, [])
  | fuel + 1, found, c :: cs =>
    if c.isAlpha || c = '-' then edgeName f fuel (c :: found) (f.skip cs)
    else (found.reverse, c :: cs)

/-- A word assertion, after its letter `b`: a name in braces may follow. Braces that do not hold a
letter or a dash first are left to count repetitions. -/
def wordEscape (f : Flags) (cs : List Char) : Except PatternError (Primitive × List Char) :=
  match cs with
  | '\x7b' :: inner =>
    match f.skip inner with
    | [] => .error .malformed
    | c :: rest =>
      if c.isAlpha || c = '-' then
        match edgeName f (rest.length + 1) [] (c :: rest) with
        | (name, '\x7d' :: rest) =>
          match String.ofList name with
          | "start" => .ok (.look (f.wordAssertion .start), rest)
          | "end" => .ok (.look (f.wordAssertion .stop), rest)
          | "start-half" => .ok (.look (f.wordAssertion .startHalf), rest)
          | "end-half" => .ok (.look (f.wordAssertion .stopHalf), rest)
          | _ => .error .malformed
        | _ => .error .malformed
      else .ok (.look (f.wordAssertion .boundary), cs)
  | cs => .ok (.look (f.wordAssertion .boundary), cs)

/-- What stands after a backslash. -/
def escape (f : Flags) : List Char → Except PatternError (Primitive × List Char)
  | [] => .error .malformed
  | c :: cs =>
    match c with
    | 'x' | 'u' | 'U' => hexEscape f c cs
    | 'p' => propertyEscape f false cs
    | 'P' => propertyEscape f true cs
    | 'd' | 's' | 'w' => .ok (.set (f.letterClass c), cs)
    | 'D' | 'S' | 'W' => do
      let s ← f.negate? true (f.letterClass c.toLower)
      return (.set s, cs)
    | 'a' => .ok (.literal '\x07' false, cs)
    | 'f' => .ok (.literal '\x0c' false, cs)
    | 't' => .ok (.literal '\t' false, cs)
    | 'n' => .ok (.literal '\n' false, cs)
    | 'r' => .ok (.literal '\r' false, cs)
    | 'v' => .ok (.literal '\x0b' false, cs)
    | 'A' => .ok (.look .textStart, cs)
    | 'z' => .ok (.look .textEnd, cs)
    | 'b' => wordEscape f cs
    | 'B' => .ok (.look (f.wordAssertion .inside), cs)
    | '<' => .ok (.look (f.wordAssertion .start), cs)
    | '>' => .ok (.look (f.wordAssertion .stop), cs)
    | c => if escapable c then .ok (.literal c false, cs) else .error .malformed

end RollCall.Regex
