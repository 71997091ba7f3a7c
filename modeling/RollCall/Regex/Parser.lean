import RollCall.Regex.Bracket

/-! Reading a pattern. A flag group changes the flags up to the end of the group around it, also
in the alternatives that follow. -/
namespace RollCall.Regex

/-- What is known while a pattern is read: the flags, the number of groups opened so far and the
names given to groups. -/
structure Reading where
  flags : Flags := {}
  groups : Nat := 0
  names : List (List Char) := []
deriving Inhabited

structure Part where
  expr : Expr
  height : Nat
  repeatable : Bool := true
deriving Inhabited

def sequence (parts : List Part) : Part :=
  match parts with
  | [] => ⟨.empty, 0, true⟩
  | [p] => p
  | ps =>
    ⟨.concat (ps.reverse.map (·.expr)), ps.foldl (fun h p => max h p.height) 0 + 1, true⟩

def choice (branches : List Part) : Part :=
  match branches with
  | [p] => p
  | ps =>
    ⟨.alternation (ps.reverse.map (·.expr)), ps.foldl (fun h p => max h p.height) 0 + 1, true⟩

def repeatLast (f : Flags) (parts : List Part) (min : Nat) (max : Option Nat) (greedy : Bool) :
    Except PatternError (List Part) :=
  match parts with
  | p :: rest =>
    if p.repeatable then
      .ok (⟨p.expr.times min max (greedy != f.swapGreed), p.height + 1, true⟩ :: rest)
    else .error .malformed
  | [] => .error .malformed

def greedyMark : List Char → Bool × List Char
  | '?' :: rest => (false, rest)
  | rest => (true, rest)

def digitRun (f : Flags) : Nat → List Char → List Char → List Char × List Char
  | 0, found, cs => (found.reverse, cs)
  | _ + 1, found, [] => (found.reverse, [])
  | fuel + 1, found, c :: cs =>
    if c.isDigit then digitRun f fuel (c :: found) (f.skip cs) else (found.reverse, c :: cs)

/-- Blanks after a count, which are skipped under any flags. -/
def blankRun (f : Flags) : Nat → List Char → List Char
  | 0, cs => cs
  | _ + 1, [] => []
  | fuel + 1, c :: cs => if Unicode.isBlank c then blankRun f fuel (f.skip cs) else c :: cs

/-- A count, which may have blanks around it: `none` if there are no digits. -/
def count (f : Flags) (cs : List Char) : Except PatternError (Option Nat × List Char) :=
  let cs := cs.dropWhile Unicode.isBlank
  let (digits, rest) := digitRun f (cs.length + 1) [] cs
  let rest := blankRun f (rest.length + 1) rest
  let value := digits.foldl (fun n c => 10 * n + (c.toNat - 48)) 0
  if digits.isEmpty then .ok (none, rest)
  else if value < UInt32.size then .ok (some value, rest)
  else .error .malformed

/-- The bounds of a counted repetition, after the opening brace, and the text after the closing
one. -/
def bounds (f : Flags) (cs : List Char) :
    Except PatternError (Nat × Option Nat × List Char) := do
  let (min, rest) ← count f (f.skip cs)
  match min, rest with
  | some n, '\x7d' :: rest => return (n, some n, rest)
  | some n, ',' :: rest =>
    match f.skip rest with
    | '\x7d' :: rest => return (n, none, rest)
    | rest =>
      match ← count f rest with
      | (some m, '\x7d' :: rest) => if n ≤ m then return (n, some m, rest) else .error .malformed
      | _ => .error .malformed
  | _, _ => .error .malformed

/-- Whether a character may stand in the name of a group. -/
def nameChar (isFirst : Bool) (c : Char) : Bool :=
  if isFirst then c = '_' || Unicode.isAlphabetic c
  else c = '_' || c = '.' || c = '[' || c = ']' || Unicode.isAlphanumeric c

def groupName (cs : List Char) : Except PatternError (List Char × List Char) :=
  let name := cs.takeWhile (· ≠ '>')
  match name, cs.dropWhile (· ≠ '>') with
  | first :: others, _ :: rest =>
    if nameChar true first && others.all (nameChar false) then .ok (name, rest)
    else .error .malformed
  | _, _ => .error .malformed

/-- What an opening parenthesis begins. -/
inductive Opening
  /-- A change of flags for what follows. -/
  | flags (f : Flags)
  /-- A group that is not captured, with flags of its own. -/
  | plain (f : Flags)
  | capture (name : Option (List Char))

/-- The flags up to a colon or a closing parenthesis. No letter may stand twice, a dash may stand
once, and a letter must follow it. `seen` holds what was read so far. -/
def flagList (f : Flags) :
    (seen : List Char) → List Char → Except PatternError (Opening × List Char)
  | _, [] => .error .malformed
  | seen, ':' :: rest => if seen.head? = some '-' then .error .malformed else .ok (.plain f, rest)
  | seen, ')' :: rest =>
    if seen.isEmpty ∨ seen.head? = some '-' then .error .malformed else .ok (.flags f, rest)
  | seen, c :: rest =>
    if seen.contains c then .error .malformed
    else if c = '-' then flagList f (c :: seen) rest
    else
      match f.set? c (!seen.contains '-') with
      | some f => flagList f (c :: seen) rest
      | none => .error .malformed

/-- What stands after an opening parenthesis. Conditions on the text around are not offered. -/
def opening (f : Flags) (cs : List Char) : Except PatternError (Opening × List Char) :=
  match f.skip cs with
  | '?' :: '=' :: _ | '?' :: '!' :: _ | '?' :: '<' :: '=' :: _ | '?' :: '<' :: '!' :: _ =>
    .error .malformed
  | '?' :: 'P' :: '<' :: rest | '?' :: '<' :: rest =>
    (groupName rest).map fun (name, rest) => (.capture (some name), rest)
  | '?' :: rest => flagList f [] rest
  | rest => .ok (.capture none, rest)

def primitivePart (f : Flags) (cs : List Char) : Except PatternError (Part × List Char) := do
  let (p, rest) ←
    match cs with
    | [] => .error .malformed
    | '\\' :: cs => escape f cs
    | '.' :: cs => .ok (.dot, cs)
    | '^' :: cs => .ok (.look f.startAssertion, cs)
    | '$' :: cs => .ok (.look f.endAssertion, cs)
    | c :: cs => .ok (.literal c false, cs)
  match p with
  | .literal c isByte =>
    if isByte && !f.unicode && 0x7F < c.toNat then .error .malformed
    else return (⟨f.literal c, 0, true⟩, rest)
  | .set s => return (⟨.ofSet s, 0, true⟩, rest)
  | .look l => return (⟨.look l, 0, true⟩, rest)
  | .dot => return (⟨← f.dot, 0, true⟩, rest)

/-- The rest of a group, or of the whole pattern at depth 0: earlier branches and the parts of the
present branch are given in reverse order. -/
def branches : Nat → (depth : Nat) → Reading → List Part → List Part → List Char →
    Except PatternError (Part × Reading × List Char)
  | 0, _, _, _, _, _ => .error .malformed
  | fuel + 1, depth, r, earlier, parts, cs =>
    let f := r.flags
    match f.skip cs with
    | [] =>
      if depth = 0 then .ok (choice (sequence parts :: earlier), r, []) else .error .malformed
    | ')' :: rest =>
      if depth = 0 then .error .malformed
      else .ok (choice (sequence parts :: earlier), r, rest)
    | '|' :: rest => branches fuel depth r (sequence parts :: earlier) [] rest
    | '(' :: rest => do
      if nestLimit < depth then .error .malformed
      match ← opening f rest with
      | (.flags g, rest) =>
        branches fuel depth { r with flags := g } earlier (⟨.empty, 0, false⟩ :: parts) rest
      | (.plain g, rest) =>
        let (body, r, rest) ← branches fuel (depth + 1) { r with flags := g } [] [] rest
        branches fuel depth { r with flags := f } earlier
          (⟨body.expr, body.height + 1, true⟩ :: parts) rest
      | (.capture name, rest) =>
        let index := r.groups + 1
        let taken := match name with | some n => r.names.contains n | none => false
        if taken then .error .malformed
        let r := { r with groups := index, names := name.toList ++ r.names }
        let (body, r, rest) ← branches fuel (depth + 1) r [] [] rest
        branches fuel depth { r with flags := f } earlier
          (⟨.group index body.expr, body.height + 1, true⟩ :: parts) rest
    | '[' :: rest => do
      let (s, height, rest) ← bracket f rest
      branches fuel depth r earlier (⟨.ofSet s, height, true⟩ :: parts) rest
    | '?' :: rest => do
      let (greedy, rest) := greedyMark rest
      branches fuel depth r earlier (← repeatLast f parts 0 (some 1) greedy) rest
    | '*' :: rest => do
      let (greedy, rest) := greedyMark rest
      branches fuel depth r earlier (← repeatLast f parts 0 none greedy) rest
    | '+' :: rest => do
      let (greedy, rest) := greedyMark rest
      branches fuel depth r earlier (← repeatLast f parts 1 none greedy) rest
    | '\x7b' :: rest => do
      let (min, max, rest) ← bounds f rest
      let (greedy, rest) := greedyMark (f.skip rest)
      branches fuel depth r earlier (← repeatLast f parts min max greedy) rest
    | cs => do
      let (p, rest) ← primitivePart f cs
      branches fuel depth r earlier (p :: parts) rest

/-- The expression of a pattern. Every step takes at least one character. -/
def parse (pattern : List Char) : Except PatternError Expr := do
  let (whole, _, _) ← branches (pattern.length + 1) 0 {} [] [] pattern
  if nestLimit < whole.height then .error .malformed else .ok whole.expr

end RollCall.Regex
