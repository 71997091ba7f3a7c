import RollCall.Decimal.Binary64
import RollCall.Text

/-! The value of a variable, taken as the first of these that it can be: a truth value, an integer
of 64 bits, a number of double precision, a text. -/
namespace RollCall.Settings

inductive Scalar
  | boolean (b : Bool)
  | integer (i : Int)
  | decimal (d : Binary64)
  | text (s : String)
deriving DecidableEq, Inhabited

def cutSign : List Char → Bool × List Char
  | '-' :: rest => (true, rest)
  | '+' :: rest => (false, rest)
  | rest => (false, rest)

def digitsValue (digits : List Char) : Nat := digits.foldl (fun n c => 10 * n + (c.toNat - 48)) 0

/-- An integer of 64 bits: digits, perhaps after a sign. -/
def readInteger? (s : List Char) : Option Int :=
  let (negative, digits) := cutSign s
  if digits.isEmpty ∨ !digits.all Char.isDigit then none
  else
    let n : Int := digitsValue digits
    let i := if negative then -n else n
    if Int64.minValue.toInt ≤ i ∧ i ≤ Int64.maxValue.toInt then some i else none

/-- The exponent of a number in scientific form: nothing, or a letter and an integer. -/
def readExponent? (s : List Char) : Option Int :=
  match s with
  | [] => some 0
  | c :: rest =>
    if c = 'e' ∨ c = 'E' then
      let (negative, digits) := cutSign rest
      if digits.isEmpty ∨ !digits.all Char.isDigit then none
      else
        let n : Int := digitsValue digits
        some (if negative then -n else n)
    else none

/-- A decimal fraction: digits with at most one point among or around them, perhaps with a sign
before and an exponent after them; or the name of an infinity or of what is no number. -/
def readDecimal? (s : List Char) : Option Binary64 :=
  let (negative, body) := cutSign s
  let word := body.map Char.toLower
  if word = "inf".toList ∨ word = "infinity".toList then some (.infinite negative)
  else if word = "nan".toList then some .nan
  else
    let whole := body.takeWhile Char.isDigit
    let (part, rest) :=
      match body.dropWhile Char.isDigit with
      | '.' :: rest => (rest.takeWhile Char.isDigit, rest.dropWhile Char.isDigit)
      | rest => ([], rest)
    if whole.isEmpty ∧ part.isEmpty then none
    else (readExponent? rest).map fun e =>
      .ofDecimal negative (digitsValue (whole ++ part)) (e - part.length)

def readBoolean? (s : String) : Option Bool :=
  let word := LowerCase.ofText s
  if word = "true" then some true else if word = "false" then some false else none

def Scalar.ofText (s : String) : Scalar :=
  match readBoolean? s with
  | some b => .boolean b
  | none =>
    match readInteger? s.toList with
    | some i => .integer i
    | none =>
      match readDecimal? s.toList with
      | some d => .decimal d
      | none => .text s

def writeInteger (i : Int) : List Char :=
  (if i < 0 then ['-'] else []) ++ Nat.toDigits 10 i.natAbs

/-- A value where a text is asked for. -/
def Scalar.asText : Scalar → String
  | .boolean b => if b then "true" else "false"
  | .integer i => String.ofList (writeInteger i)
  | .decimal d => String.ofList d.written
  | .text s => s

/-- A value where a truth value is asked for: numbers other than zero are true, and some words are
taken in any case; or the lower-case form of a text that is no such word. -/
def Scalar.asBoolean : Scalar → Except String Bool
  | .boolean b => .ok b
  | .integer i => .ok (i ≠ 0)
  | .decimal d => .ok (!d.isZero)
  | .text s =>
    let word := LowerCase.ofText s
    if ["1", "true", "on", "yes"].contains word then .ok true
    else if ["0", "false", "off", "no"].contains word then .ok false
    else .error word

end RollCall.Settings
