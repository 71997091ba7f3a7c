import RollCall.Machine
import RollCall.Settings.Name
import RollCall.Settings.Scalar

/-! The tree of values that variables build up: each variable puts its value at the place that its
path leads to, and makes the tables and lists on the way there. -/
namespace RollCall.Settings

/-- A table with the entry of one key, which replaces any other entry of this key. -/
def setEntry {κ α : Type} [DecidableEq κ] (table : List (κ × α)) (key : κ) (x : α) :
    List (κ × α) :=
  table.filter (·.1 ≠ key) ++ [(key, x)]

/-- What stands at a place: a value, a table by its keys, or a list, given by its length and those
of its items that are not empty. -/
inductive Tree
  | value (v : Scalar)
  | table (entries : List (String × Tree))
  | list (length : Nat) (items : List (Nat × Tree))

namespace Tree

/-- The table at a place, which is a new one if anything else stands there. -/
def entries : Option Tree → List (String × Tree)
  | some (.table entries) => entries
  | _ => []

/-- The list at a place, in the same way. -/
def items : Option Tree → Nat × List (Nat × Tree)
  | some (.list length items) => (length, items)
  | _ => (0, [])

/-- The position that an index means in a list of some length. From the front it may lie behind the
end, as far as a list can grow; from the end it must lie within the list. -/
def position (room length : Nat) (i : Int) : Except Crash Nat :=
  if 0 ≤ i then
    if i < room then .ok i.toNat
    else .error (if listLimit ≤ i.toNat then .panic else .outOfMemory)
  else if i.natAbs ≤ length then .ok (length - i.natAbs)
  else .error .panic

/-- The tree at a place after a value was put where some steps lead from there. -/
def put (room : Nat) : (old : Option Tree) → List Step → Scalar → Except Crash Tree
  | _, [], v => .ok (.value v)
  | old, .key k :: steps, v => do
    let part ← put room ((entries old).lookup k) steps v
    return .table (setEntry (entries old) k part)
  | old, .index i :: steps, v => do
    let (length, items) := items old
    let n ← position room length i
    let part ← put room (items.lookup n) steps v
    return .list (max length (n + 1)) (setEntry items n part)

end Tree

end RollCall.Settings
