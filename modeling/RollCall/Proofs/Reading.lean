import RollCall.Proofs.Check

/-! Reading a file line by line, against scanning its text at once. The two find the same, and a
file that is no text as a whole gives nothing, whatever its lines hold. -/
namespace RollCall

namespace Pattern

theorem exists_lines_scan (p : Pattern) (text : String) :
    ∃ lines, Lines.Reads '\n' '\r' text.toList lines ∧
      (p.scan text).raw = lines.flatMap fun line => p.identifiers (String.ofList line) := by
  refine ⟨Lines.split '\n' '\r' text.toList, (Lines.reads_iff (by decide)).mpr rfl, ?_⟩
  show ((Lines.split '\n' '\r' text.toList).map String.ofList).flatMap p.identifiers = _
  rw [List.flatMap_map]

theorem listsSet_unique_raw (x : Extraction) : ListsSet x.unique.names {y | y ∈ x.raw} :=
  Roster.listsSet fun _ => Roster.mem_ofList

section Identifiers

variable {p : Pattern} {text x : String}

theorem mem_of_mem_identifiers (hx : x ∈ p.identifiers text) {c : Char} (hc : c ∈ x.toList) :
    c ∈ text.toList := by
  obtain ⟨s, -, rfl⟩ := List.mem_map.mp hx
  rw [String.toList_ofList, Array.mem_toList_iff] at hc
  obtain ⟨i, hi, rfl⟩ := Array.mem_extract_iff_getElem.mp hc
  simp

/-- An identifier stays within its line. -/
theorem lf_notMem_of_mem_scan (hx : x ∈ (p.scan text).raw) : '\n' ∉ x.toList := by
  obtain ⟨lines, hreads, hraw⟩ := p.exists_lines_scan text
  rw [hraw] at hx
  obtain ⟨line, hline, hx⟩ := List.mem_flatMap.mp hx
  intro hc
  have hmem := mem_of_mem_identifiers hx hc
  rw [String.toList_ofList] at hmem
  exact hreads.lf_notMem line hline hmem

end Identifiers

end Pattern

variable {files : FileSystem} {path bytes : ByteArray} {source : String} {p : Pattern}

theorem scanFile_of_decodes {text : String} (h : files path = .ok bytes)
    (htext : String.fromUTF8? bytes = some text) : p.scanFile files path = .ok (p.scan text) := by
  apply Pattern.scanFile_of_holds
  rw [FileSystem.Holds, h, Lines.fromUTF8?_eq_some_iff.mp htext]

theorem scanFile_of_invalid (h : files path = .ok bytes) (htext : String.fromUTF8? bytes = none) :
    p.scanFile files path = .error (.fileAccess path .invalidText) := by
  have hb : ¬ bytes.IsValidUTF8 := by
    intro hb
    rw [String.fromUTF8?, dif_pos hb] at htext
    contradiction
  exact Pattern.scanFile_of_refuses (.invalid h hb)

theorem extractIdentifiers_of_pattern (h : Pattern.ofSource source = .ok p) (files : FileSystem)
    (path : ByteArray) :
    extractIdentifiers files path source = (p.scanFile files path).map (·.unique.names) := by
  unfold extractIdentifiers
  rw [h]

theorem extractIdentifiers_of_error {e : Regex.PatternError}
    (h : Pattern.ofSource source = .error e) (files : FileSystem) (path : ByteArray) :
    extractIdentifiers files path source = .error (.pattern e) := by
  unfold extractIdentifiers
  rw [h]

/-- A file that can be opened is taken as a whole: if all of it is a text, searching the file is
searching the lines of the text, and if not, nothing is found and the file is named. The sorted
identifiers are those of the same search, but a pattern that cannot be made is reported before any
trouble with the file. -/
theorem scanFile_all_or_nothing (p : Pattern) (files : FileSystem) (path : ByteArray) :
    (∀ bytes, files path = .ok bytes →
      (∀ text, String.fromUTF8? bytes = some text →
        p.scanFile files path = .ok (p.scan text)) ∧
      (String.fromUTF8? bytes = none →
        p.scanFile files path = .error (.fileAccess path .invalidText))) ∧
    (∀ text, ∃ lines, Lines.Reads '\n' '\r' text.toList lines ∧
      (p.scan text).raw = lines.flatMap fun line => p.identifiers (String.ofList line)) ∧
    (∀ source, Pattern.ofSource source = .ok p →
      (∀ x, p.scanFile files path = .ok x → ∃ names,
        extractIdentifiers files path source = .ok names ∧ ListsSet names {y | y ∈ x.raw}) ∧
      (∀ f, p.scanFile files path = .error f →
        extractIdentifiers files path source = .error f)) ∧
    ∀ source e, Pattern.ofSource source = .error e →
      extractIdentifiers files path source = .error (.pattern e) := by
  refine ⟨?_, p.exists_lines_scan, ?_, ?_⟩
  · intro bytes h
    exact ⟨fun text htext => scanFile_of_decodes h htext, fun htext => scanFile_of_invalid h htext⟩
  · intro source hp
    have hextract := extractIdentifiers_of_pattern hp files path
    constructor
    · intro x hx
      rw [hx] at hextract
      exact ⟨x.unique.names, hextract, Pattern.listsSet_unique_raw x⟩
    · intro f hf
      rw [hf] at hextract
      exact hextract
  · intro source e he
    exact extractIdentifiers_of_error he files path

end RollCall
