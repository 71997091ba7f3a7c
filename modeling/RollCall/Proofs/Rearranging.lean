import RollCall.Proofs.Tally

/-! Rearranging the lines of a file. A check goes by what lines a file has and how often, and neither
by their order nor by their line ends. -/
namespace RollCall

/-- Two texts with the same lines, in any order and with any line ends. -/
inductive Rearranged : String → String → Prop
  | intro {text text' : String} {lines lines' : List (List Char)} (perm : lines.Perm lines')
      (plain : ∀ line ∈ lines, Lines.Plain '\n' '\r' line)
      (written : Lines.Written '\n' '\r' lines text.toList)
      (written' : Lines.Written '\n' '\r' lines' text'.toList) : Rearranged text text'

theorem Rearranged.lines_perm {text text' : String} (h : Rearranged text text') :
    (Lines.ofText text).Perm (Lines.ofText text') := by
  obtain ⟨perm, plain, written, written'⟩ := h
  have plain' : ∀ line ∈ _, Lines.Plain '\n' '\r' line :=
    fun line hline => plain line (perm.mem_iff.mpr hline)
  rw [Lines.ofText, Lines.ofText, written.split_eq (by decide) plain,
    written'.split_eq (by decide) plain']
  exact perm.map String.ofList

theorem Roster.ofList_of_perm {l l' : List String} (h : l.Perm l') : ofList l = ofList l' := by
  apply ext_mem
  intro x
  rw [mem_ofList, mem_ofList, h.mem_iff]

theorem Tally.count_of_perm (expected : Roster) {raw raw' : List String} (h : raw.Perm raw') :
    count expected raw = count expected raw' := by
  rw [count_eq, count_eq]
  apply List.map_congr_left
  intro name _
  rw [occurrences, occurrences, h.count_eq]

namespace FileSystem

/-- At a path, two file systems hold the same file or files with the same lines. -/
inductive Alike (files files' : FileSystem) (path : ByteArray) : Prop
  | same (h : files path = files' path)
  | rearranged {text text' : String} (holds : files.Holds path text)
      (holds' : files'.Holds path text') (h : Rearranged text text')

end FileSystem

def Extraction.Alike (x y : Extraction) : Prop := x.raw.Perm y.raw

namespace Extraction

variable {x y : Extraction}

theorem Alike.unique_eq (h : x.Alike y) : x.unique = y.unique := Roster.ofList_of_perm h

theorem Alike.isEmpty_eq (h : x.Alike y) : x.isEmpty = y.isEmpty := List.Perm.isEmpty_eq h

end Extraction

namespace Pattern

variable {p : Pattern} {files files' : FileSystem} {path : ByteArray}

theorem scan_alike {text text' : String} (h : (Lines.ofText text).Perm (Lines.ofText text')) :
    (p.scan text).Alike (p.scan text') := h.flatMap_right p.identifiers

/-- Searching either file fails for the same reason, or finds the same. -/
theorem scanFile_alike (h : files.Alike files' path) :
    (∃ f, p.scanFile files path = .error f ∧ p.scanFile files' path = .error f) ∨
      ∃ x y, p.scanFile files path = .ok x ∧ p.scanFile files' path = .ok y ∧ x.Alike y := by
  cases h with
  | same h =>
    have hscan : p.scanFile files path = p.scanFile files' path := by
      unfold scanFile
      rw [h]
    rw [hscan]
    cases p.scanFile files' path with
    | error f => exact Or.inl ⟨f, rfl, rfl⟩
    | ok x => exact Or.inr ⟨x, x, rfl, rfl, .refl x.raw⟩
  | rearranged holds holds' h =>
    exact Or.inr ⟨_, _, scanFile_of_holds holds, scanFile_of_holds holds',
      scan_alike h.lines_perm⟩

end Pattern

def CheckResult.at (r : CheckResult) (now : Timestamp) : CheckResult :=
  { r with report := { r.report with checkedAt := now } }

/-- A check of rearranged files ends as the check of the files as they were: with the same failure,
or with the same report but for the time. -/
theorem CheckOptions.check_of_rearranged {files files' : FileSystem} (o : CheckOptions)
    (now now' : Timestamp) (hpods : files.Alike files' o.podsFile)
    (hlog : files.Alike files' o.logFile) :
    o.check files' now' = (o.check files now).map (·.at now') := by
  unfold check
  rcases o.pattern.scanFile_alike hpods with ⟨f, hf, hf'⟩ | ⟨pods, pods', hp, hp', hpods⟩
  · rw [hf, hf']
    rfl
  rcases o.pattern.scanFile_alike hlog with ⟨f, hf, hf'⟩ | ⟨log, log', hl, hl', hlog⟩
  · rw [hp, hp', hf, hf']
    rfl
  · rw [hp, hp', hl, hl']
    simp only [bind, Except.bind, pure, Except.pure, Except.map]
    rw [hpods.unique_eq, hlog.unique_eq, hpods.isEmpty_eq, Tally.count_of_perm _ hlog]
    rfl

/-- Three lines, one of them empty and one with a carriage return inside, and the same three in
another order, with other line ends and none after the last. -/
theorem rearranged_three_lines : Rearranged "ab\n\nc\rb\n" "\r\nc\rb\nab" := by
  have hwritten : "ab\n\nc\rb\n".toList =
      "ab".toList ++ '\n' :: ([] ++ '\n' :: ("c\rb".toList ++ '\n' :: [])) := by decide
  have hwritten' : "\r\nc\rb\nab".toList =
      [] ++ '\r' :: '\n' :: ("c\rb".toList ++ '\n' :: "ab".toList) := by decide
  have hperm : ["ab".toList, [], "c\rb".toList].Perm [[], "c\rb".toList, "ab".toList] := by decide
  refine .intro hperm ?_ ?_ ?_
  · simp only [List.forall_mem_cons]
    exact ⟨⟨by decide, by decide⟩, ⟨by decide, by decide⟩, ⟨by decide, by decide⟩, nofun⟩
  · rw [hwritten]
    exact .feed (.feed (.feed .nil))
  · rw [hwritten']
    exact .returnFeed (.feed (.last (by decide)))

/-- A check of these lines in one order and in the other. -/
theorem CheckOptions.check_of_rearranged_three_lines : ∃ p, Pattern.ofSource "[ab]" = .ok p ∧
    let o : CheckOptions := ⟨"pods.txt".toUTF8, "log.txt".toUTF8, p, true⟩
    let files : FileSystem := fun _ => .ok "ab\n\nc\rb\n".toUTF8
    let files' : FileSystem := fun _ => .ok "\r\nc\rb\nab".toUTF8
    files.Alike files' o.podsFile ∧ files.Alike files' o.logFile ∧
      o.check files' ⟨1, 0⟩ = (o.check files ⟨0, 0⟩).map (·.at ⟨1, 0⟩) := by
  obtain ⟨p, hp⟩ := Pattern.exists_ofSource_letters
  have halike (path : ByteArray) : FileSystem.Alike (fun _ => .ok "ab\n\nc\rb\n".toUTF8)
      (fun _ => .ok "\r\nc\rb\nab".toUTF8) path := .rearranged rfl rfl rearranged_three_lines
  exact ⟨p, hp, halike _, halike _,
    check_of_rearranged _ _ _ (halike _) (halike _)⟩

end RollCall
