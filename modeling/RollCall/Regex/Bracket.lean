import RollCall.Regex.Escape

/-! Classes in brackets: items, nested classes and the operators between them, which group from the
left and all bind alike. Each class is read with its height, the greatest number of nested parts
on a way down through it. -/
namespace RollCall.Regex

/-- How deep the parts of a pattern may be nested. -/
def nestLimit : Nat := 250

inductive SetOperator
  | intersection | difference | symmetricDifference
deriving DecidableEq, Inhabited

/-- Combines two classes; case is closed on both sides first. -/
def SetOperator.apply (f : Flags) (op : SetOperator) (a b : CharSet) : CharSet :=
  let a := f.closeCase a
  let b := f.closeCase b
  match op with
  | .intersection => a.intersection b
  | .difference => a.difference b
  | .symmetricDifference => a.symmetricDifference b

/-- A class that is being read: the items since the last operator, how many there are and the
greatest of their heights, and what stands before the operator. -/
structure OpenClass where
  items : List Interval := []
  count : Nat := 0
  height : Nat := 0
  pending : Option (SetOperator × CharSet × Nat) := none
deriving Inhabited

namespace OpenClass

def add (o : OpenClass) (items : List Interval) (height : Nat) : OpenClass :=
  { o with items := items ++ o.items, count := o.count + 1, height := max o.height height }

def addChar (o : OpenClass) (c : Char) : OpenClass := o.add [⟨c.toNat, c.toNat⟩] 0

def value (o : OpenClass) (f : Flags) : CharSet × Nat :=
  let items := CharSet.ofIntervals o.items
  let height := if 1 < o.count then o.height + 1 else o.height
  match o.pending with
  | none => (items, height)
  | some (op, left, leftHeight) => (op.apply f left items, max leftHeight height + 1)

def operator (o : OpenClass) (f : Flags) (op : SetOperator) : OpenClass :=
  let (left, height) := o.value f
  { pending := some (op, left, height) }

end OpenClass

/-- The classes of ASCII characters that have names. -/
def asciiClass? (name : String) : Option CharSet :=
  match name with
  | "alnum" => some ⟨[⟨0x30, 0x39⟩, ⟨0x41, 0x5A⟩, ⟨0x61, 0x7A⟩]⟩
  | "alpha" => some ⟨[⟨0x41, 0x5A⟩, ⟨0x61, 0x7A⟩]⟩
  | "ascii" => some ⟨[⟨0, 0x7F⟩]⟩
  | "blank" => some ⟨[⟨9, 9⟩, ⟨32, 32⟩]⟩
  | "cntrl" => some ⟨[⟨0, 31⟩, ⟨0x7F, 0x7F⟩]⟩
  | "digit" => some ⟨[⟨0x30, 0x39⟩]⟩
  | "graph" => some ⟨[⟨0x21, 0x7E⟩]⟩
  | "lower" => some ⟨[⟨0x61, 0x7A⟩]⟩
  | "print" => some ⟨[⟨0x20, 0x7E⟩]⟩
  | "punct" => some ⟨[⟨0x21, 0x2F⟩, ⟨0x3A, 0x40⟩, ⟨0x5B, 0x60⟩, ⟨0x7B, 0x7E⟩]⟩
  | "space" => some ⟨[⟨9, 13⟩, ⟨32, 32⟩]⟩
  | "upper" => some ⟨[⟨0x41, 0x5A⟩]⟩
  | "word" => some ⟨[⟨0x30, 0x39⟩, ⟨0x41, 0x5A⟩, ⟨0x5F, 0x5F⟩, ⟨0x61, 0x7A⟩]⟩
  | "xdigit" => some ⟨[⟨0x30, 0x39⟩, ⟨0x41, 0x46⟩, ⟨0x61, 0x66⟩]⟩
  | _ => none

/-- A named ASCII class after its opening bracket, whether it is negated, and the text after it. -/
def namedAsciiClass? (cs : List Char) : Option (CharSet × Bool × List Char) :=
  match cs with
  | ':' :: cs =>
    let (negated, cs) := match cs with | '^' :: cs => (true, cs) | cs => (false, cs)
    match cs.dropWhile (· ≠ ':') with
    | ':' :: ']' :: rest =>
      (asciiClass? (String.ofList (cs.takeWhile (· ≠ ':')))).map fun s => (s, negated, rest)
    | _ => none
  | _ => none

/-- A character as an item of a class: without `unicode` it must be an ASCII character. -/
def classChar (f : Flags) (c : Char) : Except PatternError Char :=
  if f.unicode || c.toNat < 0x80 then .ok c else .error .malformed

def classPrimitive (f : Flags) : List Char → Except PatternError (Primitive × List Char)
  | [] => .error .malformed
  | '\\' :: cs => escape f cs
  | c :: cs => .ok (.literal c false, cs)

/-- The character after the present one, past blanks and at most one comment sign. -/
def peekBeyond (f : Flags) (cs : List Char) : Option Char :=
  if !f.extended then cs.head?
  else
    match cs.dropWhile Unicode.isBlank with
    | [] => cs.head?
    | '#' :: rest => ((rest.dropWhile Unicode.isBlank).head?).orElse fun _ => cs.head?
    | c :: _ => some c

/-- One item of a class: a character, a range or a set. A dash before the closing bracket or
before another dash makes no range. -/
def classItem (f : Flags) (o : OpenClass) (cs : List Char) :
    Except PatternError (OpenClass × List Char) := do
  let (first, rest) ← classPrimitive f cs
  let single : Except PatternError OpenClass :=
    match first with
    | .literal c _ => (classChar f c).map o.addChar
    | .set s => .ok (o.add s.intervals 0)
    | _ => .error .malformed
  match f.skip rest with
  | [] => .error .malformed
  | '-' :: tail =>
    let ahead := peekBeyond f tail
    if ahead = some ']' ∨ ahead = some '-' then return (← single, '-' :: tail)
    else
      match f.skip tail with
      | [] => .error .malformed
      | tail =>
        let (last, rest) ← classPrimitive f tail
        match first, last with
        | .literal a _, .literal b _ =>
          let a ← classChar f a
          let b ← classChar f b
          if a ≤ b then return (o.add [⟨a.toNat, b.toNat⟩] 0, rest) else .error .malformed
        | _, _ => .error .malformed
  | rest => return (← single, rest)

def leadingDashes (f : Flags) : Nat → OpenClass → List Char → OpenClass × List Char
  | 0, o, cs => (o, cs)
  | fuel + 1, o, '-' :: cs => leadingDashes f fuel (o.addChar '-') (f.skip cs)
  | _ + 1, o, cs => (o, cs)

/-- The beginning of a class after its opening bracket: whether it is negated, leading dashes, and
a closing bracket, which stands for itself if it comes first. -/
def openClass (f : Flags) (cs : List Char) : Bool × OpenClass × List Char :=
  let cs := f.skip cs
  let (negated, cs) := match cs with | '^' :: cs => (true, f.skip cs) | cs => (false, cs)
  let (o, cs) := leadingDashes f cs.length {} cs
  match o.count, cs with
  | 0, ']' :: cs => (negated, o.addChar ']', f.skip cs)
  | _, cs => (negated, o, cs)

/-- The rest of a class up to its closing bracket: its set, its height and the text after it. -/
def classBody (f : Flags) : Nat → (depth : Nat) → (negated : Bool) → OpenClass → List Char →
    Except PatternError (CharSet × Nat × List Char)
  | 0, _, _, _, _ => .error .malformed
  | fuel + 1, depth, negated, o, cs =>
    if nestLimit < depth then .error .malformed
    else
      match f.skip cs with
      | [] => .error .malformed
      | ']' :: rest => do
        let (s, height) := o.value f
        return (← f.finishSet negated s, height + 1, rest)
      | '[' :: rest =>
        match namedAsciiClass? rest with
        | some (s, negatedItem, rest) => do
          let s ← f.finishSet negatedItem s
          classBody f fuel depth negated (o.add s.intervals 0) rest
        | none => do
          let (negatedItem, inner, rest) := openClass f rest
          let (s, height, rest) ← classBody f fuel (depth + 1) negatedItem inner rest
          classBody f fuel depth negated (o.add s.intervals height) rest
      | '&' :: '&' :: rest => classBody f fuel depth negated (o.operator f .intersection) rest
      | '-' :: '-' :: rest => classBody f fuel depth negated (o.operator f .difference) rest
      | '~' :: '~' :: rest =>
        classBody f fuel depth negated (o.operator f .symmetricDifference) rest
      | cs => do
        let (o, rest) ← classItem f o cs
        classBody f fuel depth negated o rest

/-- A class after its opening bracket. Every step takes at least one character. -/
def bracket (f : Flags) (cs : List Char) : Except PatternError (CharSet × Nat × List Char) :=
  let (negated, o, rest) := openClass f cs
  classBody f (cs.length + 1) 1 negated o rest

end RollCall.Regex
