/-! What a run meets on the machine that it runs on: environment variables, an order in which tables
are visited, and memory. -/
namespace RollCall

/-- Environment variables with their values; of several with one name, the first counts. -/
abbrev Environment := List (String × String)

namespace Environment

def get? (env : Environment) (name : String) : Option String := env.lookup name

def value (env : Environment) (name : String) : String := (env.get? name).getD ""

def setDefault (env : Environment) (name value : String) : Environment :=
  match env.get? name with
  | some _ => env
  | none => env ++ [(name, value)]

end Environment

/-- How a run breaks off, with no error of its own. -/
inductive Crash
  | panic
  | outOfMemory
deriving DecidableEq, Inhabited

/-- The status that the system reports for a run that breaks off: the signal for an abort is 6. -/
def Crash.exitCode : Crash → Nat
  | .panic => 101
  | .outOfMemory => 128 + 6

/-- An order in which the entries of a table are visited: those with some keys come first, in the
order of these keys, and the others follow as they stand. Tables are hashed with a seed that differs
from run to run, so it can be any order. -/
structure VisitOrder where
  first : List String := []
  nodup : first.Nodup := by decide

def VisitOrder.visit {α : Type} (o : VisitOrder) (key : α → String) (table : List α) : List α :=
  (o.first.flatMap fun k => table.filter (key · = k)) ++
    table.filter fun a => !o.first.contains (key a)

/-- The greatest length of a list: an element takes 96 bytes, and all of them at most 2 ^ 63 - 1. -/
def listLimit : Nat := Int64.maxValue.toInt.toNat / 96

/-- What a run cannot choose. -/
structure Machine where
  /-- The order of the variables when settings are taken from them. -/
  variableOrder : VisitOrder := {}
  /-- The order in which the settings are looked at. -/
  settingOrder : VisitOrder := {}
  /-- The length up to which there is memory for a list. -/
  room : Nat := 1048576
  room_le : room ≤ listLimit := by decide

instance : Inhabited Machine := ⟨{}⟩

end RollCall
