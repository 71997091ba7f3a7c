import RollCall.CharSet

/-! Named sets of characters, written as text: code points in hexadecimal, an interval as its two
ends with a dash between, one blank between items. -/
namespace RollCall.Unicode

/-- A set under its names; names are in the loose form of `looseName`. -/
structure NamedSet where
  names : List String
  lines : List String

def hexNumber (digits : List Char) : Nat :=
  digits.foldl (fun n c => 16 * n + (if c.isDigit then c.toNat - 48 else c.toNat - 87)) 0

/-- One item: a code point, or an interval by its ends in either order. -/
def readInterval (item : List Char) : Interval :=
  let first := hexNumber (item.takeWhile (· ≠ '-'))
  match item.dropWhile (· ≠ '-') with
  | [] => ⟨first, first⟩
  | _ :: rest => ⟨min first (hexNumber rest), max first (hexNumber rest)⟩

/-- The set that lines of ascending items write. -/
def NamedSet.set (s : NamedSet) : CharSet :=
  ⟨s.lines.flatMap fun line => (line.toList.splitOn ' ').map readInterval⟩

/-- Names are compared without case, blanks, underscores, dashes, characters beyond ASCII and a
leading `is`; only `isc` keeps its first two letters, because it names a comment and not the
category `c`. -/
def looseName (name : List Char) : String :=
  let cs := name.filter fun c => c.toNat < 0x80
  let strip (l : List Char) : List Char :=
    (l.filter fun c => c ≠ ' ' ∧ c ≠ '_' ∧ c ≠ '-').map Char.toLower
  match cs with
  | i :: s :: rest =>
    if (i = 'i' ∨ i = 'I') ∧ (s = 's' ∨ s = 'S') then
      let bare := strip rest
      if bare = ['c'] then "isc" else String.ofList bare
    else String.ofList (strip cs)
  | _ => String.ofList (strip cs)

def lookup (table : List NamedSet) (name : String) : Option CharSet :=
  (table.find? (·.names.contains name)).map NamedSet.set

end RollCall.Unicode
