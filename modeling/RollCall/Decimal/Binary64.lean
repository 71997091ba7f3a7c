/-! Numbers of double precision as exact values: the nearest one to a decimal fraction, and the
shortest decimal that reads back. -/
namespace RollCall

/-- A number of double precision: `mantissa · 2 ^ exponent` with a sign, an infinity, or none. -/
inductive Binary64
  | finite (negative : Bool) (mantissa : Nat) (exponent : Int)
  | infinite (negative : Bool)
  | nan
deriving DecidableEq, Inhabited

namespace Binary64

/-- Mantissas are less than this, and not less than half of it unless the exponent is the least
one. -/
def mantissaBound : Nat := 1 <<< 53

def minExponent : Int := -1074

def maxExponent : Int := 971

def scale (num den : Nat) (e : Int) : Nat × Nat :=
  if 0 ≤ e then (num, den <<< e.toNat) else (num <<< (-e).toNat, den)

/-- The integer nearest to a fraction; a tie goes to the even one. -/
def nearest (num den : Nat) : Nat :=
  let q := num / den
  let r := num % den
  if 2 * r < den then q
  else if den < 2 * r then q + 1
  else q + q % 2

/-- The number of double precision nearest to a fraction that is not zero. -/
def ofFraction (negative : Bool) (num den : Nat) : Binary64 :=
  let estimate : Int := (num.log2 : Int) - den.log2 - 52
  let floorAt (e : Int) : Nat := let (n, d) := scale num den e; n / d
  let e := if 2 * floorAt estimate < mantissaBound then estimate - 1 else estimate
  let e := max e minExponent
  let (n, d) := scale num den e
  let m := nearest n d
  let (m, e) := if m = mantissaBound then (mantissaBound / 2, e + 1) else (m, e)
  if maxExponent < e then .infinite negative else .finite negative m e

/-- The nearest number to `digits · 10 ^ exponent`. Beyond the exponents tested first, every
number is an infinity or zero. -/
def ofDecimal (negative : Bool) (digits : Nat) (exponent : Int) : Binary64 :=
  let size : Int := exponent + (Nat.toDigits 10 digits).length
  if digits = 0 ∨ size < -400 then .finite negative 0 minExponent
  else if 400 < size then .infinite negative
  else if 0 ≤ exponent then ofFraction negative (digits * Nat.pow 10 exponent.toNat) 1
  else ofFraction negative digits (Nat.pow 10 (-exponent).toNat)

def isZero : Binary64 → Bool
  | .finite _ m _ => m = 0
  | _ => false

/-- The interval of reals that are nearest to `m · 2 ^ e`, as a quarter of a unit below or half a
unit, and half a unit above: four times the ends and the value, over a common denominator. The
distance below is halved where the number below has a smaller exponent. -/
def interval (m : Nat) (e : Int) : Nat × Nat × Nat × Nat :=
  let below := if 2 * m = mantissaBound ∧ minExponent < e then 1 else 2
  let (low, value, high) := (4 * m - below, 4 * m, 4 * m + 2)
  if 0 ≤ e then (low <<< e.toNat, value <<< e.toNat, high <<< e.toNat, 4)
  else (low, value, high, 4 <<< (-e).toNat)

/-- The least `k ≥ start` with `num / den < 10 ^ k`, for a fraction below `10 ^ (start + fuel)`. -/
def magnitude (num den : Nat) : Nat → Int → Int
  | 0, k => k
  | fuel + 1, k =>
    let fits := if 0 ≤ k then num < den * Nat.pow 10 k.toNat else num * Nat.pow 10 (-k).toNat < den
    if fits then k else magnitude num den fuel (k + 1)

/-- The multiple of `10 ^ k` that lies in the interval next to the value, if there is one: the
nearer of the two around the value, and the greater if they are equally near. The ends belong to
the interval iff the mantissa is even. -/
def gridPoint? (ends : Bool) (low value high den : Nat) (k : Int) : Option Nat :=
  let (unit, den) := if 0 ≤ k then (Nat.pow 10 k.toNat * den, 1) else (den, Nat.pow 10 (-k).toNat)
  let (low, value, high) := (low * den, value * den, high * den)
  let within (n : Nat) : Bool :=
    if ends then low ≤ n * unit ∧ n * unit ≤ high else low < n * unit ∧ n * unit < high
  let below := value / unit
  let above := below + 1
  match within below, within above with
  | true, true => some (if value - below * unit < above * unit - value then below else above)
  | true, false => some below
  | false, true => some above
  | false, false => none

/-- The first of the grids of multiples of `10 ^ k`, from the widest, that has a point in the
interval: the point and `k`. -/
def shortestFrom (ends : Bool) (low value high den : Nat) : Nat → Int → Nat × Int
  | 0, k => (value / den, k)
  | fuel + 1, k =>
    match gridPoint? ends low value high den k with
    | some n => (n, k)
    | none => shortestFrom ends low value high den fuel (k - 1)

/-- The shortest decimal `n · 10 ^ k` that reads back as `m · 2 ^ e`, for a positive `m`. -/
def shortest (m : Nat) (e : Int) : Nat × Int :=
  let (low, value, high, den) := interval m e
  let top := magnitude value den 700 (-330)
  shortestFrom (m % 2 = 0) low value high den 20 (top - 1)

/-- Digits written out around a decimal point, without an exponent. -/
def positional (n : Nat) (k : Int) : List Char :=
  let digits := Nat.toDigits 10 n
  if 0 ≤ k then digits ++ List.replicate k.toNat '0'
  else
    let places := (-k).toNat
    let digits := List.replicate (places + 1 - digits.length) '0' ++ digits
    let (whole, part) := digits.splitAt (digits.length - places)
    let part := (part.reverse.dropWhile (· = '0')).reverse
    if part.isEmpty then whole else whole ++ '.' :: part

/-- The written form: the shortest decimal that reads back, never with an exponent. -/
def written : Binary64 → List Char
  | .nan => ['N', 'a', 'N']
  | .infinite negative => (if negative then ['-'] else []) ++ ['i', 'n', 'f']
  | .finite negative m e =>
    let number :=
      if m = 0 then ['0']
      else
        let (n, k) := shortest m e
        positional n k
    (if negative then ['-'] else []) ++ number

end Binary64

end RollCall
