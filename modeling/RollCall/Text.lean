import RollCall.Unicode.CaseMap
import RollCall.Unicode.Query

/-! Texts: bytes shown as text, the lines of a text or a file, lower-case forms, and quotation. -/

/-! Reading bytes as text where they need not be valid: each ill-formed part is shown as one
replacement character. A part ends where no valid sequence could go on. -/
namespace RollCall.Utf8

def isTail (b : UInt8) : Bool := 0x80 ≤ b && b ≤ 0xBF

/-- What the first byte of a sequence of several bytes asks of the second: its least and greatest
value, and how many bytes follow in all. -/
def leadByte (b : UInt8) : Option (UInt8 × UInt8 × Nat) :=
  if 0xC2 ≤ b ∧ b ≤ 0xDF then some (0x80, 0xBF, 1)
  else if b = 0xE0 then some (0xA0, 0xBF, 2)
  else if b = 0xED then some (0x80, 0x9F, 2)
  else if 0xE1 ≤ b ∧ b ≤ 0xEF then some (0x80, 0xBF, 2)
  else if b = 0xF0 then some (0x90, 0xBF, 3)
  else if 0xF1 ≤ b ∧ b ≤ 0xF3 then some (0x80, 0xBF, 3)
  else if b = 0xF4 then some (0x80, 0x8F, 3)
  else none

/-- The greatest number of bytes, up to the given one, that continue a sequence. -/
def tails : Nat → List UInt8 → Nat
  | 0, _ => 0
  | _ + 1, [] => 0
  | n + 1, b :: rest => if isTail b then tails n rest + 1 else 0

/-- How many bytes the first sequence takes, or the first ill-formed part, and the character if
there is one. -/
def firstPart (b : UInt8) (rest : List UInt8) : Option Char × Nat :=
  if b < 0x80 then (some (Char.ofNat b.toNat), 1)
  else
    match leadByte b, rest with
    | some (least, greatest, count), second :: more =>
      if least ≤ second ∧ second ≤ greatest then
        let length := tails (count - 1) more + 2
        if length = count + 1 then
          let lead := b.toNat % (if count = 1 then 32 else if count = 2 then 16 else 8)
          let code := ((second :: more).take count).foldl (fun n t => 64 * n + t.toNat % 64) lead
          (some (Char.ofNat code), length)
        else (none, length)
      else (none, 1)
    | _, _ => (none, 1)

def readFrom : (skip : Nat) → List UInt8 → List Char
  | _, [] => []
  | skip + 1, _ :: rest => readFrom skip rest
  | 0, b :: rest =>
    let (c, length) := firstPart b rest
    c.getD '\uFFFD' :: readFrom (length - 1) rest

/-- The text of any bytes. -/
def display (bytes : ByteArray) : String := String.ofList (readFrom 0 bytes.data.toList)

end RollCall.Utf8

/-! Lines of a text or of a file. A line ends at a line feed, and a carriage return directly before
the line feed belongs to the line end; a last line without a line feed counts if it is not empty.
The rule is the same for characters and for bytes, so the sequence type is left open. -/
namespace RollCall.Lines

variable {α : Type} [DecidableEq α]

/-- A line, given in reverse order, without one carriage return at its end. -/
def closeLine (cr : α) : List α → List α
  | [] => []
  | x :: xs => if x = cr then xs.reverse else (x :: xs).reverse

/-- The lines of `rest`, after finished lines and the beginning of a line, both in reverse order. -/
def splitFrom (lf cr : α) : (finished : List (List α)) → (current : List α) → (rest : List α) →
    List (List α)
  | finished, [], [] => finished.reverse
  | finished, current, [] => (current.reverse :: finished).reverse
  | finished, current, x :: rest =>
    if x = lf then splitFrom lf cr (closeLine cr current :: finished) [] rest
    else splitFrom lf cr finished (x :: current) rest

/-- The lines of a sequence whose line feed is `lf` and whose carriage return is `cr`. -/
def split (lf cr : α) (s : List α) : List (List α) := splitFrom lf cr [] [] s

def ofText (text : String) : List String := (split '\n' '\r' text.toList).map String.ofList

/-- The lines of a file, as bytes. -/
def ofBytes (bytes : ByteArray) : List ByteArray :=
  (split 0x0A 0x0D bytes.data.toList).map fun line => ⟨line.toArray⟩

end RollCall.Lines

/-! The lower-case form of a text. A capital sigma becomes the final one at the end of a word. -/
namespace RollCall.LowerCase

/-- Whether the first character that is not passed over in finding words is a letter with case. -/
def casedAhead (cs : List Char) : Bool :=
  match cs.dropWhile Unicode.isCaseIgnorable with
  | c :: _ => Unicode.isCased c
  | [] => false

/-- The rest of a text in lower case; `before` holds what comes before it, in reverse order. -/
def lowerFrom : (before : List Char) → List Char → List Char
  | _, [] => []
  | before, c :: rest =>
    let lower :=
      if c = '\u03a3' then
        [if casedAhead before && !casedAhead rest then '\u03c2' else '\u03c3']
      else Unicode.lowerChar c
    lower ++ lowerFrom (c :: before) rest

def ofText (s : String) : String := String.ofList (lowerFrom [] s.toList)

end RollCall.LowerCase

/-! Texts in quotation marks as a listing shows them: whatever cannot be seen, or would join the
character before it, is shown by its number. -/
namespace RollCall.Quoted

/-- A character by its code point. -/
def numbered (c : Char) : List Char :=
  ['\\', 'u', '{'] ++ Nat.toDigits 16 c.toNat ++ ['}']

def quoteChar (c : Char) : List Char :=
  if c = '\x00' then ['\\', '0']
  else if c = '\t' then ['\\', 't']
  else if c = '\r' then ['\\', 'r']
  else if c = '\n' then ['\\', 'n']
  else if c = '"' then ['\\', '"']
  else if c = '\\' then ['\\', '\\']
  else if 0x20 ≤ c.toNat ∧ c.toNat < 0x7F then [c]
  else if Unicode.extending.contains c || Unicode.unprintable.contains c then numbered c
  else [c]

def quote (s : String) : List Char := '"' :: (s.toList.flatMap quoteChar ++ ['"'])

def quoteList (l : List String) : List Char :=
  '[' :: (List.intercalate [',', ' '] (l.map quote) ++ [']'])

end RollCall.Quoted
