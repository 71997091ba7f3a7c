import RollCall.Machine
import RollCall.Unicode.Query

/-! The entries of a file of variables. An entry takes one line, or several if a line ends inside
quotation marks; a comment goes to the end of its line. -/
namespace RollCall.DotEnv

inductive Place
  | plain
  /-- After a blank, where a comment may begin. -/
  | blank
  /-- After a backslash outside quotation marks. -/
  | escape
  | weakQuote
  | weakEscape
  | strongQuote
  | strongEscape
  | comment
deriving DecidableEq, Inhabited

/-- The place after a further character. A second blank in a row is like any other character, so
only a single blank lets a comment begin. -/
def Place.next (p : Place) (c : Char) : Place :=
  match p with
  | .plain =>
    if c = '\\' then .escape
    else if c = '"' then .weakQuote
    else if c = '\x27' then .strongQuote
    else if c ≠ '\n' ∧ c ≠ '\r' ∧ Unicode.isBlank c then .blank
    else .plain
  | .blank =>
    if c = '#' then .comment
    else if c = '\\' then .escape
    else if c = '"' then .weakQuote
    else if c = '\x27' then .strongQuote
    else .plain
  | .escape => .plain
  | .weakQuote => if c = '\\' then .weakEscape else if c = '"' then .plain else .weakQuote
  | .weakEscape => .weakQuote
  | .strongQuote => if c = '\\' then .strongEscape else if c = '\x27' then .plain else .strongQuote
  | .strongEscape => .strongQuote
  | .comment => .comment

inductive Stop
  /-- All of the file is read. -/
  | finished
  | malformed
  | crashed (c : Crash)
deriving DecidableEq, Inhabited

structure Entries where
  entries : List (List Char)
  stop : Stop
deriving DecidableEq, Inhabited

/-- The characters of the first bytes of a text; `none` if the last of these is within one. -/
def takeBytes? : Nat → List Char → Option (List Char)
  | 0, _ | _, [] => some []
  | n, c :: cs =>
    if c.utf8Size ≤ n then (takeBytes? (n - c.utf8Size) cs).map (c :: ·) else none

/-- An entry that ends with a comment. It is cut off at the place that the mark has within its line,
which is the mark itself only if the entry takes one line. -/
def uncommented? (before line : List Char) : Option (List Char) :=
  takeBytes? (String.ofList line).utf8ByteSize (before.reverse ++ line.reverse)

/-- The entries of a text that goes on at a place of an entry; `before` holds the finished lines of
the entry and `line` the last one so far, both in reverse order. A mark at the beginning of an entry
makes all of its line a comment. -/
def Entries.readFrom : Place → (before line : List Char) → List Char → Entries
  | _, [], [], [] => ⟨[], .finished⟩
  | p, before, line, [] =>
    if p = .plain ∨ p = .comment then ⟨[before.reverse ++ line.reverse], .finished⟩
    else ⟨[], .malformed⟩
  | p, before, line, c :: rest =>
    let next := if c = '#' && (line ++ before).all Unicode.isBlank then .comment else p.next c
    if c = '\n' ∧ (next = .plain ∨ next = .comment) then
      let more := readFrom .plain [] [] rest
      { more with entries := (before.reverse ++ line.reverse) :: more.entries }
    else if next = .comment then
      if p = .comment then readFrom .comment before line rest
      else
        match uncommented? before line with
        | some entry => readFrom .comment [] entry.reverse rest
        | none => ⟨[], .crashed .panic⟩
    else if c = '\n' then readFrom next (c :: line ++ before) [] rest
    else readFrom next before (c :: line) rest

/-- The lines of a file, each with its end, after finished lines and the beginning of a line, both
in reverse order. -/
def splitLines : (finished : List ByteArray) → (current : List UInt8) → List UInt8 →
    List ByteArray
  | finished, [], [] => finished.reverse
  | finished, current, [] => (⟨current.reverse.toArray⟩ :: finished).reverse
  | finished, current, b :: rest =>
    if b = 0x0A then splitLines (⟨(b :: current).reverse.toArray⟩ :: finished) [] rest
    else splitLines finished (b :: current) rest

def byteOrderMark : List UInt8 := [0xEF, 0xBB, 0xBF]

def Entries.ofFile (bytes : ByteArray) : Entries :=
  let bytes := bytes.data.toList
  let bytes := if byteOrderMark.isPrefixOf bytes then bytes.drop byteOrderMark.length else bytes
  let lines := (splitLines [] [] bytes).map String.fromUTF8?
  let valid := (lines.takeWhile Option.isSome).filterMap id
  let read := readFrom .plain [] [] (valid.flatMap String.toList)
  { read with
    stop := if read.stop = .finished ∧ !lines.all Option.isSome then .malformed else read.stop }

end RollCall.DotEnv
