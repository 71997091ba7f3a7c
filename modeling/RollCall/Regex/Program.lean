import RollCall.Regex.Expr

/-! Expressions as programs of a machine that reads characters and chooses between two ways. The
code of an expression is laid out from its first address on and leaves to a given address; of a
`split`, the first way is the preferred one. -/
namespace RollCall.Regex

/-- An instruction; each but the last names the address that follows it. -/
inductive Instr
  /-- Reads one character of the set. -/
  | set (s : CharSet) (next : Nat)
  /-- Reads this character. -/
  | char (c : Char) (next : Nat)
  | look (l : Look) (next : Nat)
  | jump (next : Nat)
  /-- The first address is tried before the second. -/
  | split (first second : Nat)
  /-- The first capture group begins. -/
  | enter (next : Nat)
  /-- The first capture group ends. -/
  | leave (next : Nat)
  | accept
deriving DecidableEq, Inhabited

/-- A choice whose preferred way is `inner` iff the repetition is greedy. -/
def Instr.choice (greedy : Bool) (inner outer : Nat) : Instr :=
  if greedy then .split inner outer else .split outer inner

/-- A program starts at address 0. -/
abbrev Program := Array Instr

namespace Expr

def codeSize : Expr → Nat
  | .empty => 1
  | .text cs => cs.length + 1
  | .set _ => 1
  | .look _ => 1
  | .group index body => if index = 1 then body.codeSize + 2 else body.codeSize
  | .repetition body min (some max) _ =>
    min * body.codeSize + (max - min) * (body.codeSize + 1) + 1
  | .repetition body 0 none _ =>
    if body.consumes then body.codeSize + 1 else body.codeSize + 2
  | .repetition body (min + 1) none _ => (min + 1) * body.codeSize + 1
  | .seq a b => a.codeSize + b.codeSize
  | .alt a b => a.codeSize + b.codeSize + 1

/-- The instructions of an expression from `base` on, which leave to `next`.

A repetition with a greatest number is its least number of copies and then a chain of copies, each
of which may be left out with all that follow. A repetition without one returns to its only or last
copy; if that can match the empty text, the way back is a choice of its own behind the copy, so
that the first round is entered at most once at each place. -/
def code : Expr → (base next : Nat) → List Instr
  | .empty, _, next => [.jump next]
  | .text cs, base, next =>
    cs.mapIdx (fun k c => .char c (base + k + 1)) ++ [.jump next]
  | .set s, _, next => [.set s next]
  | .look l, _, next => [.look l next]
  | .group index body, base, next =>
    if index = 1 then
      let last := base + body.codeSize + 1
      .enter (base + 1) :: (body.code (base + 1) last ++ [.leave next])
    else body.code base next
  | .repetition body min (some max) greedy, base, next =>
    let size := body.codeSize
    let options := base + min * size
    ((List.range min).flatMap fun k => body.code (base + k * size) (base + (k + 1) * size)) ++
    ((List.range (max - min)).flatMap fun k =>
      let start := options + k * (size + 1)
      .choice greedy (start + 1) next :: body.code (start + 1) (start + size + 1)) ++
    [.jump next]
  | .repetition body 0 none greedy, base, next =>
    let size := body.codeSize
    if body.consumes then
      .choice greedy (base + 1) next :: body.code (base + 1) base
    else
      .choice greedy (base + 1) next :: (body.code (base + 1) (base + size + 1) ++
        [.choice greedy (base + 1) next])
  | .repetition body (min + 1) none greedy, base, next =>
    let size := body.codeSize
    let last := base + min * size
    ((List.range (min + 1)).flatMap fun k =>
      body.code (base + k * size) (base + (k + 1) * size)) ++
    [.choice greedy last next]
  | .seq a b, base, next =>
    a.code base (base + a.codeSize) ++ b.code (base + a.codeSize) next
  | .alt a b, base, next =>
    .split (base + 1) (base + a.codeSize + 1) ::
      (a.code (base + 1) next ++ b.code (base + a.codeSize + 1) next)

/-- An estimate of the room for reading a character of a set from either side, in bytes. ASCII
characters are one choice; others are cut into bytes, and beyond the first plane the cuts are
longer. How much room the cuts share depends on the set and is not followed. -/
def setFootprint (s : CharSet) : Nat :=
  let count := s.intervals.length
  if s.isAscii then 8 * count + 64
  else 60 * count + (if s.intervals.any (0xFFFF < ·.last) then 800 else 0)

/-- An estimate of the room that the machine needs for an expression, in bytes. It tells apart
patterns far below the limit from those far beyond it; near the limit it may err to either side. -/
def footprint : Expr → Nat
  | .empty => 32
  | .text cs => cs.foldr (fun c room => 32 * c.utf8Size + room) 0
  | .set s => setFootprint s
  | .look _ => 32
  | .group _ body => body.footprint + 64
  | .repetition body min (some max) _ =>
    min * body.footprint + (max - min) * (body.footprint + 40) + 32
  | .repetition body min none _ => Nat.max min 1 * body.footprint + 72
  | .seq a b => a.footprint + b.footprint
  | .alt a b => a.footprint + b.footprint + 40

/-- The program of an expression accepts where the expression ends. -/
def program (e : Expr) : Program := (e.code 0 e.codeSize ++ [Instr.accept]).toArray

end Expr

end RollCall.Regex
