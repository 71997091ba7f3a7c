import RollCall.Proofs.Report

/-! One report in several forms. Colours stand around what is shown without them, counts come after
everything else, and the time is the last thing in a document. -/
namespace RollCall

def stripColors : List Char → List Char
  | '\x1b' :: '[' :: '9' :: '2' :: 'm' :: rest => stripColors rest
  | '\x1b' :: '[' :: '9' :: '1' :: 'm' :: rest => stripColors rest
  | '\x1b' :: '[' :: '3' :: '3' :: 'm' :: rest => stripColors rest
  | '\x1b' :: '[' :: '0' :: 'm' :: rest => stripColors rest
  | c :: rest => c :: stripColors rest
  | [] => []

theorem stripColors_cons {c : Char} (h : c ≠ '\x1b') (cs : List Char) :
    stripColors (c :: cs) = c :: stripColors cs := by
  apply stripColors.eq_5
  all_goals exact fun _ e => absurd e h

/-- Without its colours, the first text is the second one, whatever comes after it. -/
def Strips (cs plain : List Char) : Prop :=
  ∀ rest, stripColors (cs ++ rest) = plain ++ stripColors rest

namespace Strips

variable {cs ds plain plain' : List Char}

theorem append (h : Strips cs plain) (h' : Strips ds plain') :
    Strips (cs ++ ds) (plain ++ plain') := by
  intro rest
  rw [List.append_assoc, h, h', List.append_assoc]

theorem eq (h : Strips cs plain) : stripColors cs = plain := by
  have hnil := h []
  rwa [List.append_nil, stripColors, List.append_nil] at hnil

theorem of_notMem (h : '\x1b' ∉ cs) : Strips cs cs := by
  intro rest
  induction cs with
  | nil => rfl
  | cons c cs ih =>
    have hc : c ≠ '\x1b' := fun e => h (e ▸ List.mem_cons_self)
    have hcs : '\x1b' ∉ cs := fun hmem => h (List.mem_cons_of_mem c hmem)
    rw [List.cons_append, stripColors_cons hc, ih hcs, List.cons_append]

theorem flatMap {α : Type} {l : List α} {f g : α → List Char} (h : ∀ a ∈ l, Strips (f a) (g a)) :
    Strips (l.flatMap f) (l.flatMap g) := by
  induction l with
  | nil => exact fun _ => rfl
  | cons a l ih =>
    obtain ⟨ha, hl⟩ := List.forall_mem_cons.mp h
    rw [List.flatMap_cons, List.flatMap_cons]
    exact ha.append (ih hl)

end Strips

namespace Json

/-- What is written before the last member of an object does not depend on it. -/
theorem exists_writeMembers_concat (depth : Nat) (members : List (String × Json)) :
    ∃ before, ∀ name value, writeMembers depth (members ++ [(name, value)]) =
      before ++ (writeString name ++ [':', ' '] ++ writeAt (depth + 1) value ++
        newLine depth ++ ['}']) := by
  induction members with
  | nil =>
    refine ⟨',' :: newLine (depth + 1), fun name value => ?_⟩
    rw [List.nil_append, writeMembers, writeMembers]
    simp
  | cons member members ih =>
    obtain ⟨before, hbefore⟩ := ih
    refine ⟨',' :: (newLine (depth + 1) ++ writeString member.1 ++ [':', ' '] ++
      writeAt (depth + 1) member.2 ++ before), fun name value => ?_⟩
    rw [List.cons_append, writeMembers, hbefore]
    simp

theorem exists_writeAt_object (depth : Nat) (first : String × Json)
    (members : List (String × Json)) :
    ∃ before, ∀ name value,
      writeAt depth (.object (first :: (members ++ [(name, value)]))) =
        before ++ (writeString name ++ [':', ' '] ++ writeAt (depth + 1) value ++
          newLine depth ++ ['}']) := by
  obtain ⟨before, hbefore⟩ := exists_writeMembers_concat depth members
  refine ⟨'{' :: (newLine (depth + 1) ++ writeString first.1 ++ [':', ' '] ++
    writeAt (depth + 1) first.2 ++ before), fun name value => ?_⟩
  rw [writeAt, hbefore]
  simp

end Json

namespace Report

variable {r : Report} {text : List Char} {number : String}

section Colors

/-- No colour is taken up again in a text without escape characters. -/
theorem resumeColor_of_notMem (start : List Char) (h : '\x1b' ∉ text) :
    resumeColor start text = text := by
  induction text with
  | nil => rfl
  | cons c cs ih =>
    have hc : c ≠ '\x1b' := fun e => h (e ▸ List.mem_cons_self)
    have hcs : '\x1b' ∉ cs := fun hmem => h (List.mem_cons_of_mem c hmem)
    rw [resumeColor.eq_2 _ _ _ fun _ e => absurd e hc, ih hcs]

theorem strips_paint (hstart : Strips (['\x1b', '['] ++ number.toList ++ ['m']) [])
    (h : '\x1b' ∉ text) (color : Bool) : Strips (paint color number text) text := by
  have hreset : Strips colorReset [] := fun _ => rfl
  cases color with
  | false => exact .of_notMem h
  | true =>
    have hpaint := (hstart.append (.of_notMem h)).append hreset
    rw [List.nil_append, List.append_nil] at hpaint
    show Strips (_ ++ resumeColor _ text ++ colorReset) text
    rwa [resumeColor_of_notMem _ h]

theorem strips_verdictLines (color : Bool) (r : Report) :
    Strips (r.verdictLines color) (r.verdictLines false) := by
  have hlines {cs : List Char} (h : OnLines cs) : Strips cs cs :=
    .of_notMem (h.not_mem (by decide) (by decide))
  have hsuccess : Strips (paint color "92" "SUCCESS!".toList) "SUCCESS!".toList :=
    strips_paint (fun _ => rfl) (by decide) color
  have hfailure : Strips (paint color "91" "FAILURE!".toList) "FAILURE!".toList :=
    strips_paint (fun _ => rfl) (by decide) color
  unfold verdictLines
  split
  · exact hsuccess.append (hlines (by decide))
  · refine ((((hfailure.append (hlines (by decide))).append ?_).append ?_).append ?_).append ?_
    · exact hlines (onLines_listLine (by decide) r.expected)
    · exact hlines (onLines_listLine (by decide) r.observed)
    · exact hlines (onLines_optionalLine (by decide) r.missing)
    · exact hlines (onLines_optionalLine (by decide) r.unexpected)

theorem strips_countLine {name : String} (h : '\x1b' ∉ name.toList) (color : Bool) (n : Nat) :
    Strips (countLine color name n) (countLine false name n) := by
  have hend : Strips ['\n'] ['\n'] := .of_notMem (by decide)
  have hline : '\x1b' ∉ [' ', ' '] ++ name.toList ++ [':', ' '] ++ Nat.toDigits 10 n := by
    have hdigits := (noControls_toDigits (by decide) (by decide : 10 ≤ 16) n).onLines.not_mem
      (show '\x1b'.toNat < 0x20 by decide) (by decide)
    simp [h, hdigits]
  unfold countLine
  dsimp only
  split
  · exact (strips_paint (fun _ => rfl) hline color).append hend
  · exact (Strips.of_notMem hline).append hend

/-- A report with colours is the report without them and their sequences, unless it counts an
identifier that holds an escape character. -/
theorem stripColors_writeText (h : ∀ tally, r.occurrences = some tally →
      ∀ name ∈ tally.map Prod.fst, '\x1b' ∉ name.toList) (color : Bool) :
    stripColors (r.writeText color).toList = (r.writeText false).toList := by
  have hcounts : Strips (r.countLines color) (r.countLines false) := by
    unfold countLines
    cases htally : r.occurrences with
    | none => exact fun _ => rfl
    | some tally =>
      have htitle : Strips "Requests per pod:\n".toList "Requests per pod:\n".toList :=
        .of_notMem (by decide)
      refine htitle.append (.flatMap fun entry hentry => ?_)
      exact strips_countLine (h tally htally _ (List.mem_map_of_mem hentry)) color entry.2
  rw [writeText, writeText, String.toList_ofList, String.toList_ofList]
  exact ((strips_verdictLines color r).append hcounts).eq

end Colors

section Counts

def countBlock (color : Bool) (tally : Tally) : List Char :=
  "Requests per pod:\n".toList ++ tally.flatMap fun (name, n) => countLine color name n

/-- Counts come after what is written without them. -/
theorem writeText_of_counted {tally : Tally} (h : r.occurrences = some tally) (color : Bool) :
    r.writeText color =
      { r with occurrences := none }.writeText color ++ String.ofList (countBlock color tally) := by
  have hverdict : { r with occurrences := none }.verdictLines color = r.verdictLines color := rfl
  rw [writeText, writeText, hverdict, countLines, countLines, h, List.append_nil,
    String.ofList_append]
  rfl

end Counts

section Time

/-- The end of a document: its last member, which holds the time, and the end of the object. -/
def timeMember (now : Timestamp) : String :=
  String.ofList (Json.writeString "checked_at" ++ [':', ' '] ++ Json.writeString now.written ++
    ['\n', '}', '\n'])

theorem exists_toJson_eq (r : Report) : ∃ members, ∀ now : Timestamp,
    { r with checkedAt := now }.toJson =
      .object (("success", .bool r.success) ::
        (members ++ [("checked_at", .string now.written)])) := by
  let list (names : List String) := Json.array (names.map .string)
  let lists : List (String × Json) :=
    [("pattern", .string r.pattern), ("pods_file", .string r.podsFile),
      ("log_file", .string r.logFile), ("expected", list r.expected),
      ("observed", list r.observed), ("missing", list r.missing),
      ("unexpected", list r.unexpected)]
  cases r.occurrences with
  | none => exact ⟨lists, fun now => by simp [toJson, lists, list]⟩
  | some tally =>
    let counts := Json.object (tally.map fun entry => (entry.1, .nat entry.2))
    exact ⟨lists ++ [("occurrences", counts)],
      fun now => by simp [toJson, lists, list, counts]⟩

/-- The time is the last thing in a document, and nothing before it depends on the time or on the
use of colours. -/
theorem exists_render_json (r : Report) :
    ∃ before : String, ∀ (now : Timestamp) (color : Bool),
      { r with checkedAt := now }.render .json color = before ++ timeMember now := by
  obtain ⟨members, hmembers⟩ := r.exists_toJson_eq
  obtain ⟨before, hbefore⟩ := Json.exists_writeAt_object 0 ("success", .bool r.success) members
  refine ⟨String.ofList before, fun now color => ?_⟩
  apply String.toList_inj.mp
  rw [render, Json.write, hmembers, hbefore, timeMember, Json.writeAt]
  simp [Json.newLine]

end Time

end Report

end RollCall
