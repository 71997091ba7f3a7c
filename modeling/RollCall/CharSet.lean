/-! Sets of characters as ascending lists of code-point intervals. Every set built here is in
normal form: its intervals are in ascending order and neither meet nor touch, so that equal sets
are equal values and a search may stop at the first interval beyond the character. -/
namespace RollCall

/-- The code points from `first` to `last`, both included. -/
structure Interval where
  first : Nat
  last : Nat
deriving DecidableEq, Inhabited

/-- A set of characters in normal form. -/
structure CharSet where
  intervals : List Interval
deriving DecidableEq, Inhabited

namespace CharSet

def maxCode : Nat := 0x10FFFF

/-- The code points that are no characters. -/
def surrogates : Interval := ⟨0xD800, 0xDFFF⟩

/-- Intervals in ascending order are searched up to the first one beyond the code point. -/
def holds (code : Nat) : List Interval → Bool
  | [] => false
  | i :: rest => if code < i.first then false else if code ≤ i.last then true else holds code rest

def contains (s : CharSet) (c : Char) : Bool := holds c.toNat s.intervals

def empty : CharSet := ⟨[]⟩

def any : CharSet := ⟨[⟨0, 0xD7FF⟩, ⟨0xE000, maxCode⟩]⟩

def singleton (c : Char) : CharSet := ⟨[⟨c.toNat, c.toNat⟩]⟩

def range (a b : Char) : CharSet := ⟨[⟨a.toNat, b.toNat⟩]⟩

def single? (s : CharSet) : Option Char :=
  match s.intervals with
  | [i] => if i.first = i.last then some (Char.ofNat i.first) else none
  | _ => none

/-- Joins intervals, in ascending order of their first code points, that meet or touch `i`. -/
def merge (i : Interval) : List Interval → List Interval
  | [] => [i]
  | j :: rest =>
    if j.first ≤ i.last + 1 then merge ⟨i.first, max i.last j.last⟩ rest else i :: merge j rest

/-- The normal form of any list of intervals. -/
def ofIntervals (l : List Interval) : CharSet :=
  match l.mergeSort (fun i j => i.first ≤ j.first) with
  | [] => empty
  | i :: rest => ⟨merge i rest⟩

/-- What ascending intervals leave free from the code point `start` on. -/
def gaps (start : Nat) : List Interval → List Interval
  | [] => if start ≤ maxCode then [⟨start, maxCode⟩] else []
  | i :: rest =>
    if start < i.first then ⟨start, i.first - 1⟩ :: gaps (i.last + 1) rest
    else gaps (i.last + 1) rest

/-- The characters that are not in `s`; no surrogate is among them. -/
def complement (s : CharSet) : CharSet :=
  ⟨gaps 0 (ofIntervals (surrogates :: s.intervals)).intervals⟩

def union (s t : CharSet) : CharSet := ofIntervals (s.intervals ++ t.intervals)

def intersection (s t : CharSet) : CharSet := (s.complement.union t.complement).complement

def difference (s t : CharSet) : CharSet := s.intersection t.complement

def symmetricDifference (s t : CharSet) : CharSet := (s.difference t).union (t.difference s)

def isAscii (s : CharSet) : Bool := s.intervals.all (·.last < 0x80)

end CharSet

end RollCall
