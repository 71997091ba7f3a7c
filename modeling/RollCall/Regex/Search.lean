import Std.Data.HashSet.Basic
import RollCall.Regex.Program
import RollCall.Unicode.Query

/-! Leftmost matches of a program in a text, the preferred one of each place. The machine keeps the
ways it has put off on a stack, preferred ones on top. A pair of address and place that was taken
once is not taken again: if it led to a match, the search would have ended there. -/
namespace RollCall.Regex

/-- A part of a text, from the place `start` up to the place `stop`. -/
structure Span where
  start : Nat
  stop : Nat
deriving DecidableEq, Inhabited

/-- A match with the last span of the first capture group, if the group took part. -/
structure Match where
  span : Span
  group : Option Span
deriving DecidableEq, Inhabited

def wordAt (ascii : Bool) (hay : Array Char) (place : Nat) : Bool :=
  match hay[place]? with
  | some c => if ascii then c.isAlphanum || c = '_' else Unicode.isWordChar c
  | none => false

def charBefore (hay : Array Char) (place : Nat) : Option Char :=
  if place = 0 then none else hay[place - 1]?

/-- Whether the condition is met at a place of the text. -/
def Look.holds (hay : Array Char) (place : Nat) : Look → Bool
  | .textStart => place = 0
  | .textEnd => place = hay.size
  | .lineStart => place = 0 || charBefore hay place = some '\n'
  | .lineEnd => place = hay.size || hay[place]? = some '\n'
  | .lineStartCrlf =>
    place = 0 || charBefore hay place = some '\n' ||
      (charBefore hay place = some '\r' && hay[place]? ≠ some '\n')
  | .lineEndCrlf =>
    place = hay.size || hay[place]? = some '\r' ||
      (hay[place]? = some '\n' && charBefore hay place ≠ some '\r')
  | .word edge ascii =>
    edge.allows (0 < place && wordAt ascii hay (place - 1)) (wordAt ascii hay place)

/-- A way of the machine: its place in the program and in the text, where the first group was
entered last, and the span of its last round. -/
structure Thread where
  address : Nat
  place : Nat
  entered : Nat
  group : Option Span
deriving DecidableEq, Inhabited

def Thread.after (hay : Array Char) (t : Thread) : Instr → List Thread
  | .set s next =>
    match hay[t.place]? with
    | some c =>
      if s.contains c then [{ t with address := next, place := t.place + 1 }] else []
    | none => []
  | .char c next =>
    if hay[t.place]? = some c then [{ t with address := next, place := t.place + 1 }] else []
  | .look l next => if l.holds hay t.place then [{ t with address := next }] else []
  | .jump next => [{ t with address := next }]
  | .split first second => [{ t with address := first }, { t with address := second }]
  | .enter next => [{ t with address := next, entered := t.place }]
  | .leave next => [{ t with address := next, group := some ⟨t.entered, t.place⟩ }]
  | .accept => []

def Thread.key (prog : Program) (t : Thread) : Nat := t.place * prog.size + t.address

/-- Takes ways from the stack until one accepts or none is left; gives the accepting way and the
pairs of address and place that were taken. -/
def explore (prog : Program) (hay : Array Char) :
    Nat → Std.HashSet Nat → List Thread → Option Thread × Std.HashSet Nat
  | 0, taken, _ => (none, taken)
  | _ + 1, taken, [] => (none, taken)
  | fuel + 1, taken, t :: stack =>
    if taken.contains (t.key prog) then explore prog hay fuel taken stack
    else
      match prog[t.address]? with
      | none => explore prog hay fuel (taken.insert (t.key prog)) stack
      | some .accept => (some t, taken)
      | some i => explore prog hay fuel (taken.insert (t.key prog)) (t.after hay i ++ stack)

/-- Enough steps for every pair of address and place: each is taken at most once and puts at most
two ways on the stack. -/
def exploreFuel (prog : Program) (hay : Array Char) : Nat := 2 * (prog.size * (hay.size + 1)) + 2

/-- The match at the first of `count` places from `start` on that has one. What was taken from an
earlier place led to no match and is not taken again. -/
def firstMatch (prog : Program) (hay : Array Char) :
    (count start : Nat) → Std.HashSet Nat → Option Match
  | 0, _, _ => none
  | count + 1, start, taken =>
    match explore prog hay (exploreFuel prog hay) taken [⟨0, start, 0, none⟩] with
    | (some t, _) => some ⟨⟨start, t.place⟩, t.group⟩
    | (none, taken) => firstMatch prog hay count (start + 1) taken

/-- The leftmost match that begins at the place `start` or later. -/
def search (prog : Program) (hay : Array Char) (start : Nat) : Option Match :=
  firstMatch prog hay (hay.size + 1 - start) start ∅

/-- The next match from the place `start` on, where the last one ended at `last`: an empty match
right at the end of the last match does not count. -/
def nextMatch (prog : Program) (hay : Array Char) (start : Nat) (last : Option Nat) :
    Option Match :=
  match search prog hay start with
  | none => none
  | some m =>
    if m.span.start = m.span.stop ∧ last = some m.span.stop then search prog hay (start + 1)
    else some m

/-- Successive matches, each from the end of the one before it; `found` holds the earlier ones in
reverse order. -/
def collectMatches (prog : Program) (hay : Array Char) :
    Nat → (start : Nat) → (last : Option Nat) → (found : List Match) → List Match
  | 0, _, _, found => found.reverse
  | fuel + 1, start, last, found =>
    match nextMatch prog hay start last with
    | none => found.reverse
    | some m => collectMatches prog hay fuel m.span.stop (some m.span.stop) (m :: found)

/-- The matches of a program in a text, left to right and without overlap. No two of them end at
the same place, so there are at most as many as places. -/
def allMatches (prog : Program) (hay : Array Char) : List Match :=
  collectMatches prog hay (hay.size + 2) 0 none []

end RollCall.Regex
