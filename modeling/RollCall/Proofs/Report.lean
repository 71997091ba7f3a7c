import RollCall.Proofs.Tally
import RollCall.Proofs.Text.Quoted

/-! Control characters in reports. A document holds line feeds and no other ones, and so do the lines
of a report without colour, except that counts show the identifiers as they are. -/
namespace RollCall

namespace Json

theorem noControls_writeChar (c : Char) : NoControls (writeChar c) := by
  unfold writeChar
  split_ifs with hq hb h8 h12 hn hr ht hcontrol
  · decide
  · decide
  · decide
  · decide
  · decide
  · decide
  · decide
  · have hhigh := noControls_digitChar (c.toNat / 16) (by omega)
    have hlow := noControls_digitChar (c.toNat % 16) (by omega)
    have hdigits : NoControls [hexDigit (c.toNat / 16), hexDigit (c.toNat % 16)] :=
      noControls_cons.mpr ⟨hhigh, noControls_cons.mpr ⟨hlow, noControls_nil⟩⟩
    have hstart : NoControls ['\\', 'u', '0', '0'] := by decide
    exact noControls_append.mpr ⟨hstart, hdigits⟩
  · exact noControls_cons.mpr ⟨Nat.not_lt.mp hcontrol, noControls_nil⟩

theorem onLines_writeString (s : String) : OnLines (writeString s) :=
  (noControls_cons.mpr ⟨by decide,
    noControls_append.mpr ⟨.flatMap fun c _ => noControls_writeChar c, by decide⟩⟩).onLines

theorem onLines_newLine (depth : Nat) : OnLines (newLine depth) := by
  refine onLines_cons.mpr ⟨Or.inl rfl, NoControls.onLines fun c hc => ?_⟩
  rw [List.eq_of_mem_replicate hc]
  decide

theorem onLines_member (depth : Nat) (name : String) {value : List Char} (h : OnLines value) :
    OnLines (newLine (depth + 1) ++ writeString name ++ [':', ' '] ++ value) := by
  have hcolon : OnLines [':', ' '] := by decide
  simp only [onLines_append]
  exact ⟨⟨⟨onLines_newLine (depth + 1), onLines_writeString name⟩, hcolon⟩, h⟩

mutual

theorem onLines_writeAt (depth : Nat) : ∀ j : Json, OnLines (writeAt depth j)
  | .bool true => by
    rw [writeAt]
    decide
  | .bool false => by
    rw [writeAt]
    decide
  | .nat n => by
    rw [writeAt]
    exact (noControls_toDigits (by decide) (by decide) n).onLines
  | .string s => by
    rw [writeAt]
    exact onLines_writeString s
  | .array [] => by
    rw [writeAt]
    decide
  | .array (item :: items) => by
    have hitem := onLines_append.mpr
      ⟨onLines_newLine (depth + 1), onLines_writeAt (depth + 1) item⟩
    rw [writeAt]
    exact onLines_cons.mpr
      ⟨by decide, onLines_append.mpr ⟨hitem, onLines_writeItems depth items⟩⟩
  | .object [] => by
    rw [writeAt]
    decide
  | .object ((name, value) :: members) => by
    have hmember := onLines_member depth name (onLines_writeAt (depth + 1) value)
    rw [writeAt]
    exact onLines_cons.mpr
      ⟨by decide, onLines_append.mpr ⟨hmember, onLines_writeMembers depth members⟩⟩

theorem onLines_writeItems (depth : Nat) : ∀ items : List Json, OnLines (writeItems depth items)
  | [] => by
    rw [writeItems]
    exact onLines_append.mpr ⟨onLines_newLine depth, by decide⟩
  | item :: items => by
    have hitem := onLines_append.mpr
      ⟨onLines_newLine (depth + 1), onLines_writeAt (depth + 1) item⟩
    rw [writeItems]
    exact onLines_cons.mpr
      ⟨by decide, onLines_append.mpr ⟨hitem, onLines_writeItems depth items⟩⟩

theorem onLines_writeMembers (depth : Nat) :
    ∀ members : List (String × Json), OnLines (writeMembers depth members)
  | [] => by
    rw [writeMembers]
    exact onLines_append.mpr ⟨onLines_newLine depth, by decide⟩
  | (name, value) :: members => by
    have hmember := onLines_member depth name (onLines_writeAt (depth + 1) value)
    rw [writeMembers]
    exact onLines_cons.mpr
      ⟨by decide, onLines_append.mpr ⟨hmember, onLines_writeMembers depth members⟩⟩

end

/-- The line feed is the only control character in a document. -/
theorem onLines_write (j : Json) : OnLines j.write.toList := by
  rw [write, String.toList_ofList]
  exact onLines_writeAt 0 j

end Json

namespace Report

variable {r : Report} {c : Char}

theorem onLines_listLine {label : String} (h : OnLines label.toList) (names : List String) :
    OnLines (listLine label names) := by
  have hcolon : OnLines [':', ' '] := by decide
  have hend : OnLines ['\n'] := by decide
  have hnames := (Quoted.noControls_quoteList names).onLines
  simp only [listLine, onLines_append]
  exact ⟨⟨⟨h, hcolon⟩, hnames⟩, hend⟩

theorem onLines_optionalLine {label : String} (h : OnLines label.toList) (names : List String) :
    OnLines (optionalLine label names) := by
  unfold optionalLine
  split
  · exact nofun
  · exact onLines_listLine h names

/-- The lists are quoted, so that the lines before the counts show no control characters. -/
theorem onLines_verdictLines (r : Report) : OnLines (r.verdictLines false) := by
  unfold verdictLines
  split
  · decide
  · have hverdict : OnLines (paint false "91" "FAILURE!".toList ++ ['\n']) := by decide
    have hexpected := @onLines_listLine "Running pods" (by decide) r.expected
    have hobserved := @onLines_listLine "Pods that logged requests" (by decide) r.observed
    have hmissing := @onLines_optionalLine "Missing" (by decide) r.missing
    have hunexpected := @onLines_optionalLine "Unexpected" (by decide) r.unexpected
    rw [onLines_append, onLines_append, onLines_append, onLines_append]
    exact ⟨⟨⟨⟨hverdict, hexpected⟩, hobserved⟩, hmissing⟩, hunexpected⟩

/-- A count shows the identifier as it is, and nothing else that is not printed. -/
theorem mem_countLine (hc : c.toNat < 0x20) (hne : c ≠ '\n') (name : String) (n : Nat) :
    c ∈ countLine false name n ↔ c ∈ name.toList := by
  have hdigits := (noControls_toDigits (by decide) (by decide : 10 ≤ 16) n).onLines.not_mem hc hne
  have hstart : c ∉ [' ', ' '] := (by decide : OnLines [' ', ' ']).not_mem hc hne
  have hcolon : c ∉ [':', ' '] := (by decide : OnLines [':', ' ']).not_mem hc hne
  have hline : countLine false name n =
      [' ', ' '] ++ name.toList ++ [':', ' '] ++ Nat.toDigits 10 n ++ ['\n'] := by
    unfold countLine paint
    simp
  rw [hline]
  simp only [List.mem_append, hdigits, hstart, hcolon, List.mem_singleton, hne, or_false, false_or]

theorem mem_countLines (hc : c.toNat < 0x20) (hne : c ≠ '\n') :
    c ∈ r.countLines false ↔
      ∃ tally, r.occurrences = some tally ∧ ∃ name ∈ tally.map Prod.fst, c ∈ name.toList := by
  unfold countLines
  cases r.occurrences with
  | none => simp
  | some tally =>
    have htitle : c ∉ "Requests per pod:\n".toList :=
      (by decide : OnLines "Requests per pod:\n".toList).not_mem hc hne
    rw [List.mem_append, or_iff_right htitle, List.mem_flatMap]
    simp only [mem_countLine hc hne, Option.some.injEq, exists_eq_left']
    constructor
    · rintro ⟨entry, hentry, hmem⟩
      exact ⟨entry.1, List.mem_map_of_mem hentry, hmem⟩
    · rintro ⟨name, hname, hmem⟩
      obtain ⟨entry, hentry, rfl⟩ := List.mem_map.mp hname
      exact ⟨entry, hentry, hmem⟩

/-- Which control characters a report without colour shows: those of the identifiers that it counts
in lines of text. -/
theorem mem_render (hc : c.toNat < 0x20) (hne : c ≠ '\n') (format : OutputFormat) (r : Report) :
    c ∈ (r.render format false).toList ↔ format = .text ∧
      ∃ tally, r.occurrences = some tally ∧ ∃ name ∈ tally.map Prod.fst, c ∈ name.toList := by
  cases format with
  | text =>
    have hverdict := (onLines_verdictLines r).not_mem hc hne
    rw [render, writeText, String.toList_ofList, List.mem_append, mem_countLines hc hne]
    simp [hverdict]
  | json =>
    have hjson := (Json.onLines_write r.toJson).not_mem hc hne
    rw [render, String.toList_append, List.mem_append]
    simp [hjson, hne]

end Report

end RollCall
