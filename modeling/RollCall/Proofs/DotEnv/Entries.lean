import Mathlib.Tactic.SplitIfs
import RollCall.DotEnv.Lines
import RollCall.Proofs.Text.Lines

/-! The entries of a file, read part by part. Where a beginning of the file ends with a line and
with an entry, what follows is read as a file of its own. -/
namespace RollCall.DotEnv

open Lines

section WholeLines

variable {α : Type} {lf : α} {s t : List α}

/-- The sequence is empty or ends with the end of a line. -/
def WholeLines (lf : α) (s : List α) : Prop := s = [] ∨ ∃ init, s = init ++ [lf]

theorem WholeLines.append (hs : WholeLines lf s) (ht : WholeLines lf t) : WholeLines lf (s ++ t) := by
  rcases ht with rfl | ⟨init, rfl⟩
  · rwa [List.append_nil]
  · exact Or.inr ⟨s ++ init, (List.append_assoc ..).symm⟩

theorem WholeLines.of_append (h : WholeLines lf (s ++ t)) : WholeLines lf t := by
  rcases List.eq_nil_or_concat t with rfl | ⟨init, x, rfl⟩
  · exact Or.inl rfl
  · rw [List.concat_eq_append] at h ⊢
    rcases h with h | ⟨all, h⟩
    · simp at h
    · rw [← List.append_assoc] at h
      rw [List.singleton_inj.mp (List.append_inj_right' h rfl)]
      exact Or.inr ⟨init, rfl⟩

theorem WholeLines.eq_nil (h : WholeLines lf s) (hs : lf ∉ s) : s = [] := by
  rcases h with rfl | ⟨init, rfl⟩
  · rfl
  · simp at hs

end WholeLines

section Reading

/-- A reader between two characters: its place, and the finished lines of the entry and its last
line so far, both in reverse order. -/
structure Cursor where
  place : Place
  before : List Char
  line : List Char
deriving DecidableEq, Inhabited

/-- What a character makes of a reader. -/
inductive Progress
  | within (s : Cursor)
  | ends
  | crashes

namespace Cursor

/-- Between two entries. -/
def start : Cursor := ⟨.plain, [], []⟩

def text (s : Cursor) : List Char := s.before.reverse ++ s.line.reverse

def placeAfter (s : Cursor) (c : Char) : Place :=
  if c = '#' && (s.line ++ s.before).all Unicode.isBlank then .comment else s.place.next c

def progress (s : Cursor) (c : Char) : Progress :=
  if c = '\n' ∧ (s.placeAfter c = .plain ∨ s.placeAfter c = .comment) then .ends
  else if s.placeAfter c = .comment then
    if s.place = .comment then .within s
    else
      match uncommented? s.before s.line with
      | some entry => .within ⟨.comment, [], entry.reverse⟩
      | none => .crashes
  else if c = '\n' then .within ⟨s.placeAfter c, c :: s.line ++ s.before, []⟩
  else .within ⟨s.placeAfter c, s.before, c :: s.line⟩

/-- The entries that end within a text, and the reader after it, if none of them breaks the run
off. -/
def read : Cursor → List Char → List (List Char) × Option Cursor
  | s, [] => ([], some s)
  | s, c :: rest =>
    match s.progress c with
    | .within s => s.read rest
    | .ends => (s.text :: (start.read rest).1, (start.read rest).2)
    | .crashes => ([], none)

def finish : Option Cursor → Entries
  | some s =>
    if s.before = [] ∧ s.line = [] then ⟨[], .finished⟩
    else if s.place = .plain ∨ s.place = .comment then ⟨[s.text], .finished⟩
    else ⟨[], .malformed⟩
  | none => ⟨[], .crashed .panic⟩

variable {s : Cursor} {cs : List Char}

end Cursor

end Reading

section Decoding

/-- The text of the lines up to the first one that is not valid, and whether there is none. -/
def decode (bytes : List UInt8) : List Char × Bool :=
  let lines := (splitLines [] [] bytes).map String.fromUTF8?
  (((lines.takeWhile Option.isSome).filterMap id).flatMap String.toList, lines.all Option.isSome)

variable {line rest bytes : List UInt8} {cs : List Char}

end Decoding

section Files

variable {bytes rest : List UInt8}

/-- The entries of a file without a mark at its beginning. -/
def Entries.ofBytes (bytes : List UInt8) : Entries :=
  let read := readFrom .plain [] [] (decode bytes).1
  { read with stop := if read.stop = .finished ∧ !(decode bytes).2 then .malformed else read.stop }

end Files

end RollCall.DotEnv
