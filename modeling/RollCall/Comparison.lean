import RollCall.Roster

/-! The comparison of the pods that run with the pods that were seen in the log. -/
namespace RollCall

def Roster.agrees (expected observed : Roster) : Bool := expected == observed

structure Comparison where
  expected : Roster
  observed : Roster
  /-- Expected but never observed. -/
  missing : Roster
  /-- Observed but not expected. -/
  unexpected : Roster
deriving DecidableEq

namespace Comparison

def of (expected observed : Roster) : Comparison :=
  ⟨expected, observed, expected.difference observed, observed.difference expected⟩

def isMatch (c : Comparison) : Bool := c.missing.isEmpty && c.unexpected.isEmpty

end Comparison

/-- How often each expected identifier was observed, in ascending order of identifiers. -/
abbrev Tally := List (String × Nat)

namespace Tally

/-- Counts one more observation of an identifier; others are not counted. -/
def bump (id : String) (t : Tally) : Tally :=
  t.map fun (name, n) => if name = id then (name, n + 1) else (name, n)

/-- The observations of each expected identifier, counted in one pass over the raw list. -/
def count (expected : Roster) (raw : List String) : Tally :=
  raw.foldl (fun t id => t.bump id) (expected.names.map fun name => (name, 0))

end Tally

def occurrences (id : String) (raw : List String) : Nat := raw.count id

end RollCall
