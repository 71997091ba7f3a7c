import Mathlib.Data.Set.Basic
import RollCall.Check
import RollCall.Proofs.Roster
import RollCall.Proofs.Text.Lines

/-! Searching a file: it is searched iff it can be read and is valid as a whole, and then what is
found is what its text holds. -/
namespace RollCall
namespace FileSystem

variable {files : FileSystem} {path : ByteArray}

/-- The file exists, is no directory, and all of it is the encoded text. -/
def Holds (files : FileSystem) (path : ByteArray) (text : String) : Prop :=
  files path = .ok text.toUTF8

/-- Why a file holds no text: it cannot be read, or it is not valid as a whole. -/
inductive Refuses (files : FileSystem) (path : ByteArray) : ReadError → Prop
  | unreadable {e : ReadError} (h : files path = .error e) : Refuses files path e
  | invalid {bytes : ByteArray} (h : files path = .ok bytes) (hb : ¬ bytes.IsValidUTF8) :
      Refuses files path .invalidText

def Readable (files : FileSystem) (path : ByteArray) : Prop := ∃ text, files.Holds path text

theorem readable_or_refuses (files : FileSystem) (path : ByteArray) :
    files.Readable path ∨ ∃ e, files.Refuses path e := by
  cases h : files path with
  | error e => exact Or.inr ⟨e, .unreadable h⟩
  | ok bytes =>
    by_cases hb : bytes.IsValidUTF8
    · exact Or.inl ⟨String.fromUTF8 bytes hb, h⟩
    · exact Or.inr ⟨_, .invalid h hb⟩

end FileSystem

namespace Pattern

variable {p : Pattern} {files : FileSystem} {path : ByteArray}

/-- The identifiers that the lines of a text hold. -/
def identifierSet (p : Pattern) (text : String) : Set String :=
  {x | ∃ line ∈ Lines.ofText text, x ∈ p.identifiers line}

theorem mem_unique_scan {x : String} {text : String} :
    x ∈ (p.scan text).unique ↔ x ∈ p.identifierSet text := by
  rw [Extraction.unique, Roster.mem_ofList]
  exact List.mem_flatMap

/-- Searching the lines of a file one by one is searching its text. -/
theorem scanBytes_eq (p : Pattern) (bytes : ByteArray) :
    p.scanBytes bytes = (String.fromUTF8? bytes).map p.scan := by
  unfold scanBytes
  rw [Lines.mapM_fromUTF8?_ofBytes]
  cases String.fromUTF8? bytes <;> rfl

theorem scanFile_of_holds {text : String} (h : files.Holds path text) :
    p.scanFile files path = .ok (p.scan text) := by
  unfold FileSystem.Holds at h
  simp only [scanFile, h, scanBytes_eq, Lines.fromUTF8?_toUTF8, Option.map_some]

theorem scanFile_of_refuses {e : ReadError} (h : files.Refuses path e) :
    p.scanFile files path = .error (.fileAccess path e) := by
  cases h with
  | unreadable h => simp only [scanFile, h]
  | invalid h hb =>
    have hnone : String.fromUTF8? _ = none := dif_neg hb
    simp only [scanFile, h, scanBytes_eq, hnone, Option.map_none]

end Pattern

end RollCall
