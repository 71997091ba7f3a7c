import RollCall.CharSet

/-! Regular expressions as trees, and the constructors that keep them in normal form: texts are
joined, sequences and alternatives are nested to the right, alternatives of single characters are
one set, and a part with which every alternative begins is written once, before them. -/
namespace RollCall.Regex

/-- What a word assertion asks of its two sides. -/
inductive WordEdge
  | boundary | inside | start | stop | startHalf | stopHalf
deriving DecidableEq, Inhabited

def WordEdge.allows : WordEdge → Bool → Bool → Bool
  | .boundary, before, after => before != after
  | .inside, before, after => before == after
  | .start, before, after => !before && after
  | .stop, before, after => before && !after
  | .startHalf, before, _ => !before
  | .stopHalf, _, after => !after

inductive Look
  | textStart | textEnd
  /-- Lines end at a line feed. -/
  | lineStart | lineEnd
  /-- Lines end at a line feed, a carriage return or the pair of them, which is not split. -/
  | lineStartCrlf | lineEndCrlf
  /-- Word characters are those of every script, or of ASCII alone. -/
  | word (edge : WordEdge) (ascii : Bool)
deriving DecidableEq, Inhabited

inductive Expr
  | empty
  /-- These characters, one after the other. -/
  | text (cs : List Char)
  /-- One character of the set. -/
  | set (s : CharSet)
  | look (l : Look)
  /-- A capture group; groups are numbered from 1 by their opening. -/
  | group (index : Nat) (body : Expr)
  /-- At least `min` and, if there is a `max`, at most that many times; many before few iff
  `greedy`. -/
  | repetition (body : Expr) (min : Nat) (max : Option Nat) (greedy : Bool)
  | seq (first rest : Expr)
  /-- `first` is tried before `rest`. -/
  | alt (first rest : Expr)
deriving DecidableEq, Inhabited

namespace Expr

def never : Expr := .set .empty

def ofSet (s : CharSet) : Expr :=
  match s.single? with
  | some c => .text [c]
  | none => .set s

/-- Whether the empty text is the only one that can match. -/
def onlyEmpty : Expr → Bool
  | .empty => true
  | .text cs => cs.isEmpty
  | .set _ => false
  | .look _ => true
  | .group _ body => body.onlyEmpty
  | .repetition body _ max _ => max.isSome && body.onlyEmpty
  | .seq a b => a.onlyEmpty && b.onlyEmpty
  | .alt a b => a.onlyEmpty && b.onlyEmpty

def consumes : Expr → Bool
  | .empty => false
  | .text cs => !cs.isEmpty
  | .set _ => true
  | .look _ => false
  | .group _ body => body.consumes
  | .repetition body min _ _ => 0 < min && body.consumes
  | .seq a b => a.consumes || b.consumes
  | .alt a b => a.consumes && b.consumes

def hasGroup : Expr → Bool
  | .empty | .text _ | .set _ | .look _ => false
  | .group _ _ => true
  | .repetition body _ _ _ => body.hasGroup
  | .seq a b => a.hasGroup || b.hasGroup
  | .alt a b => a.hasGroup || b.hasGroup

def nodes : Expr → Nat
  | .empty | .text _ | .set _ | .look _ => 1
  | .group _ body => body.nodes + 1
  | .repetition body _ _ _ => body.nodes + 1
  | .seq a b => a.nodes + b.nodes + 1
  | .alt a b => a.nodes + b.nodes + 1

/-- A repetition. What matches only the empty text is repeated at most once; no repetition at all
is the empty expression, and exactly one is the body. -/
def times (body : Expr) (min : Nat) (max : Option Nat) (greedy : Bool) : Expr :=
  let (min, max) :=
    if body.onlyEmpty then (Nat.min min 1, some ((max.map (Nat.min · 1)).getD 1)) else (min, max)
  if min = 0 ∧ max = some 0 then .empty
  else if min = 1 ∧ max = some 1 then body
  else .repetition body min max greedy

def factors : Expr → List Expr
  | .empty => []
  | .seq a b => a :: b.factors
  | e => [e]

def alternatives : Expr → List Expr
  | .alt a b => a :: b.alternatives
  | e => [e]

def joinText (e : Expr) (rest : List Expr) : List Expr :=
  match e, rest with
  | .text a, .text b :: rest => .text (a ++ b) :: rest
  | e, rest => e :: rest

def seqOf : List Expr → Expr
  | [] => .empty
  | [e] => e
  | e :: rest => .seq e (seqOf rest)

def altOf : List Expr → Expr
  | [] => never
  | [e] => e
  | e :: rest => .alt e (altOf rest)

def concat (es : List Expr) : Expr := seqOf ((es.flatMap factors).foldr joinText [])

def charSet? : Expr → Option CharSet
  | .text [c] => some (.singleton c)
  | .set s => some s
  | _ => none

def commonStart : List Expr → List Expr → List Expr
  | a :: as, b :: bs => if a = b then a :: commonStart as bs else []
  | _, _ => []

/-- The parts with which every alternative begins, if each of them is a sequence. -/
def sharedStart (es : List Expr) : List Expr :=
  if es.all fun e => e matches .seq _ _ then
    match es.map factors with
    | [] => []
    | first :: rest => rest.foldl commonStart first
  else []

/-- Alternatives in order of preference; `fuel` bounds how often a shared start is set apart. -/
def alternationWithin : Nat → List Expr → Expr
  | 0, es => altOf es
  | fuel + 1, es =>
    let es := es.flatMap alternatives
    if es.length ≤ 1 then altOf es
    else match es.mapM charSet? with
      | some sets => ofSet (.ofIntervals (sets.flatMap (·.intervals)))
      | none =>
        let shared := sharedStart es
        if shared.isEmpty then altOf es
        else
          let rests := es.map fun e => concat (e.factors.drop shared.length)
          concat (shared ++ [alternationWithin fuel rests])

/-- Alternatives in order of preference. Each shared start that is set apart takes at least one
node from every alternative, so the number of nodes bounds the depth. -/
def alternation (es : List Expr) : Expr := alternationWithin (es.foldr (·.nodes + ·) 1) es

end Expr

end RollCall.Regex
