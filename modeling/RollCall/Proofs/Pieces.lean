import Mathlib.Algebra.Order.BigOperators.Group.List
import RollCall.Proofs.Reading
import RollCall.Proofs.Regex.Leftmost
import RollCall.Proofs.Tally

/-! Identifiers as pieces of the text. A text is made of its identifiers in order, with gaps around
them, and the identifiers of a file are such pieces of its lines. So there are never more of them than
there are characters. -/
namespace RollCall

open Regex

/-- The text is a gap, a piece, a gap, a piece and so on up to a last gap; gaps may be empty, and
pieces may not. -/
inductive Pieces : String → List String → Prop
  | last (gap : String) : Pieces gap []
  | next (gap : String) {piece rest : String} {pieces : List String} (hne : piece ≠ "")
      (hrest : Pieces rest pieces) : Pieces (gap ++ piece ++ rest) (piece :: pieces)

namespace Pieces

variable {text x : String} {pieces : List String}

theorem ne_empty (h : Pieces text pieces) : ∀ x ∈ pieces, x ≠ "" := by
  induction h with
  | last => exact nofun
  | next gap hne _ ih => exact List.forall_mem_cons.mpr ⟨hne, ih⟩

theorem exists_around (h : Pieces text pieces) (hx : x ∈ pieces) :
    ∃ before after, text = before ++ x ++ after := by
  induction h with
  | last => contradiction
  | @next gap piece rest pieces hne _ ih =>
    rcases List.mem_cons.mp hx with rfl | hx
    · exact ⟨gap, rest, rfl⟩
    · obtain ⟨before, after, rfl⟩ := ih hx
      exact ⟨gap ++ piece ++ before, after, by simp only [String.append_assoc]⟩

theorem append {a b : String} {xs ys : List String} (h : Pieces a xs) (h' : Pieces b ys) :
    Pieces (a ++ b) (xs ++ ys) := by
  induction h with
  | last gap =>
    cases h' with
    | last => exact .last (gap ++ b)
    | @next gap' piece rest pieces hne hrest =>
      rw [← String.append_assoc, ← String.append_assoc]
      exact .next (gap ++ gap') hne hrest
  | next gap hne _ ih =>
    rw [String.append_assoc]
    exact .next gap hne ih

theorem sum_length_le (h : Pieces text pieces) : (pieces.map String.length).sum ≤ text.length := by
  induction h with
  | last => exact Nat.zero_le _
  | @next gap piece rest pieces hne _ ih =>
    rw [List.map_cons, List.sum_cons, String.length_append, String.length_append]
    omega

end Pieces

/-- As many non-empty texts have at least that many characters. -/
theorem length_le_sum_length {xs : List String} (h : ∀ x ∈ xs, x ≠ "") :
    xs.length ≤ (xs.map String.length).sum := by
  induction xs with
  | nil => exact Nat.le_refl 0
  | cons x xs ih =>
    obtain ⟨hx, hxs⟩ := List.forall_mem_cons.mp h
    have hpos : x.length ≠ 0 := mt String.length_eq_zero_iff.mp hx
    have hrest := ih hxs
    rw [List.length_cons, List.map_cons, List.sum_cons]
    omega

section Spans

variable {hay : Array Char} {start : Nat} {spans : List Span}

/-- Spans that follow one another cut pieces out of the rest of a text. -/
theorem pieces_of_spans (hapart : spans.Pairwise fun s t => s.stop ≤ t.start)
    (hwithin : ∀ s ∈ spans, start ≤ s.start ∧ s.start < s.stop ∧ s.stop ≤ hay.size) :
    Pieces (String.ofList (ahead hay start)) (spans.map fun s => String.ofList (s.part hay)) := by
  induction spans generalizing start with
  | nil => exact .last _
  | cons s spans ih =>
    obtain ⟨hs, hspans⟩ := List.forall_mem_cons.mp hwithin
    obtain ⟨hlater, hapart⟩ := List.pairwise_cons.mp hapart
    have hrest : Pieces (String.ofList (ahead hay s.stop)) _ :=
      ih hapart fun t ht => ⟨hlater t ht, (hspans t ht).2⟩
    have hstart : ahead hay s.start = (ahead hay start).drop (s.start - start) := by
      rw [← ahead_add, Nat.add_sub_cancel' hs.1]
    have hstop : ahead hay s.stop = (ahead hay s.start).drop (s.stop - s.start) := by
      rw [← ahead_add, Nat.add_sub_cancel' hs.2.1.le]
    have hcut : ahead hay start =
        (ahead hay start).take (s.start - start) ++ s.part hay ++ ahead hay s.stop := by
      rw [hstop, Span.part, List.append_assoc, List.take_append_drop, hstart,
        List.take_append_drop]
    have hne := (Span.ofList_part_ne_iff hs.2.1.le hs.2.2).mpr hs.2.1
    rw [hcut, String.ofList_append, String.ofList_append]
    exact .next _ hne hrest

/-- A group lies within its match, so that the spans of groups follow one another as well. -/
theorem apart_takenSpans {e : Expr} {ms : List Match} (h : Leftmost e hay ms) (grouped : Bool) :
    (Pattern.takenSpans grouped ms).Pairwise fun s t => s.stop ≤ t.start := by
  unfold Pattern.takenSpans
  split
  · refine List.pairwise_filterMap.mpr (h.apart.imp_of_mem fun hm hm' hle s hs t ht => ?_)
    obtain ⟨-, -, hstop⟩ := h.group_within _ hm s hs
    obtain ⟨hstart, -, -⟩ := h.group_within _ hm' t ht
    exact (hstop.trans hle).trans hstart
  · exact List.pairwise_map.mpr h.apart

end Spans

/-- The pieces of the lines of a text are pieces of the text: a line end is part of a gap. -/
theorem pieces_lines {f : String → List String} (hf : ∀ line, Pieces line (f line))
    (cs : List Char) :
    Pieces (String.ofList cs) ((Lines.split '\n' '\r' cs).flatMap fun line => f (String.ofList line)) := by
  induction cs using Lines.byLines '\n' with
  | last line h =>
    by_cases hne : line = []
    · rw [hne]
      exact .last _
    · rw [Lines.split_lastLine h hne, List.flatMap_singleton]
      exact hf _
  | more line rest h ih =>
    obtain ⟨back, hback⟩ : ∃ back, line = Lines.chomp '\r' line ++ back := by
      rcases Lines.eq_chomp_or '\r' line with hline | hline
      · exact ⟨[], by rwa [List.append_nil]⟩
      · exact ⟨['\r'], hline⟩
    have hend : String.ofList (line ++ '\n' :: rest) = String.ofList (Lines.chomp '\r' line) ++
        (String.ofList (back ++ ['\n']) ++ String.ofList rest) := by
      rw [← String.ofList_append, ← String.ofList_append, List.append_assoc, ← List.append_assoc,
        ← hback]
      rfl
    rw [Lines.split_line h, List.flatMap_cons, hend]
    exact (hf _).append (Pieces.append (.last _) ih)

/-- No character takes less than a byte. -/
theorem Utf8.length_le_size (s : String) : s.length ≤ s.toUTF8.size := by
  have hflat (cs : List Char) : cs.length ≤ (cs.flatMap String.utf8EncodeChar).length := by
    induction cs with
    | nil => exact Nat.le_refl 0
    | cons c cs ih =>
      have hpos := c.utf8Size_pos
      rw [List.flatMap_cons, List.length_append, String.length_utf8EncodeChar, List.length_cons]
      omega
  have h := hflat s.toList
  rw [← Utf8.bytesOf_eq_flatMap, String.length_toList] at h
  exact h

namespace Pattern

variable {p : Pattern} {source : String}

theorem pieces_identifiers (h : ofSource source = .ok p) (text : String) :
    Pieces text (p.identifiers text) := by
  obtain ⟨e, he, -, hprogram⟩ := exists_parse_of_ofSource h
  have hleftmost := leftmost_allMatches (proper_of_parse he) text.toList.toArray
  have hspans := @pieces_of_spans text.toList.toArray 0 _
    ((apart_takenSpans hleftmost p.grouped).filter fun s => s.start < s.stop) fun s hs => by
      obtain ⟨hmem, hlt⟩ := List.mem_filter.mp hs
      obtain ⟨-, hsize⟩ := within_of_mem_takenSpans hleftmost hmem
      exact ⟨Nat.zero_le _, of_decide_eq_true hlt, hsize⟩
  have htext : String.ofList (ahead text.toList.toArray 0) = text := String.ofList_toList
  rwa [← hprogram, ← p.identifiers_eq_takenSpans text, htext] at hspans

theorem pieces_raw (h : ofSource source = .ok p) (text : String) :
    Pieces text (p.scan text).raw := by
  have hlines := pieces_lines (pieces_identifiers h) text.toList
  rw [String.ofList_toList] at hlines
  rw [scan, Lines.ofText, List.flatMap_map]
  exact hlines

theorem around_of_mem_raw (h : ofSource source = .ok p) {text x : String}
    (hx : x ∈ (p.scan text).raw) :
    ∃ line ∈ Lines.ofText text, ∃ before after, line = before ++ x ++ after := by
  obtain ⟨line, hline, hx⟩ := List.mem_flatMap.mp hx
  exact ⟨line, hline, (pieces_identifiers h line).exists_around hx⟩

/-- There are no more observations of any identifiers than there are characters in the log. -/
theorem sum_count_le (h : ofSource source = .ok p) (expected : Roster) (log : String) :
    ((Tally.count expected (p.scan log).raw).map Prod.snd).sum ≤ log.length := by
  have hpieces := pieces_raw h log
  calc
    _ = (p.scan log).raw.countP (· ∈ expected.names) := Tally.sum_count expected _
    _ ≤ (p.scan log).raw.length := List.countP_le_length
    _ ≤ ((p.scan log).raw.map String.length).sum := length_le_sum_length hpieces.ne_empty
    _ ≤ log.length := hpieces.sum_length_le

/-- The identifiers of a pattern, with groups or without, cut every text into pieces, which are not
empty and stand in the order in which they are found. So what is found in the lines of a text are
pieces of these lines and together of the text, and no longer in all than the text; and the counts of
a check, each of them and all together, are at most the number of characters in the log. -/
theorem identifiers_in_pieces (h : ofSource source = .ok p) :
    (∀ text, Pieces text (p.identifiers text)) ∧
    (∀ text, Pieces text (p.scan text).raw ∧
      (∀ x ∈ (p.scan text).raw, x ≠ "" ∧ '\n' ∉ x.toList ∧
        ∃ line ∈ Lines.ofText text, ∃ before after, line = before ++ x ++ after) ∧
      ((p.scan text).raw.map String.length).sum ≤ text.length) ∧
    ∀ (o : CheckOptions) (files : FileSystem) (now : Timestamp) (r : CheckResult) (tally : Tally),
      o.pattern = p → o.check files now = .ok r → r.report.occurrences = some tally →
      ∃ log, files.Holds o.logFile log ∧ (tally.map Prod.snd).sum ≤ log.length ∧
        ∀ entry ∈ tally, entry.2 ≤ log.length ∧ entry.2 ≤ log.toUTF8.size := by
  refine ⟨pieces_identifiers h, fun text => ⟨pieces_raw h text, fun x hx => ?_, ?_⟩, ?_⟩
  · exact ⟨(pieces_raw h text).ne_empty x hx, lf_notMem_of_mem_scan hx, around_of_mem_raw h hx⟩
  · exact (pieces_raw h text).sum_length_le
  · rintro o files now r tally rfl hcheck htally
    obtain ⟨pods, log, -, hlog, rfl⟩ := CheckOptions.check_eq_ok_iff.mp hcheck
    obtain ⟨-, rfl⟩ : o.showCounts = true ∧
        Tally.count (o.pattern.scan pods).unique (o.pattern.scan log).raw = tally := by
      simpa [CheckOptions.result, Report.build] using htally
    have hsum := sum_count_le h (o.pattern.scan pods).unique log
    refine ⟨log, hlog, hsum, fun entry hentry => ?_⟩
    have hle : entry.2 ≤ log.length :=
      (List.single_le_sum (fun _ _ => Nat.zero_le _) _ (List.mem_map_of_mem hentry)).trans hsum
    exact ⟨hle, hle.trans (Utf8.length_le_size log)⟩

/-- A group that is entered several times in one match. -/
theorem identifiers_in_pieces_rounds : ∃ p, ofSource "(a|b)+" = .ok p ∧ p.grouped = true ∧
    Pieces "xab\rb" (p.identifiers "xab\rb") ∧
    let o : CheckOptions := ⟨"pods.txt".toUTF8, "log.txt".toUTF8, p, true⟩
    let files : FileSystem := fun _ => .ok "ab\na\n".toUTF8
    ∃ r tally, o.check files ⟨0, 0⟩ = .ok r ∧ r.report.occurrences = some tally ∧
      ∃ log, files.Holds o.logFile log ∧ (tally.map Prod.snd).sum ≤ log.length ∧
        ∀ entry ∈ tally, entry.2 ≤ log.length ∧ entry.2 ≤ log.toUTF8.size := by
  have hparse : Regex.parse "(a|b)+".toList =
      .ok (.repetition (.group 1 (.set ⟨[⟨0x61, 0x62⟩]⟩)) 1 none true) := by cbv
  have hp := ofSource_of_parse hparse (by decide)
  obtain ⟨hpieces, -, hcounts⟩ := identifiers_in_pieces hp
  refine ⟨_, hp, rfl, hpieces _, ?_⟩
  intro o files
  have hcheck : o.check files ⟨0, 0⟩ = .ok (o.result ⟨0, 0⟩ "ab\na\n" "ab\na\n") :=
    CheckOptions.check_of_holds rfl rfl
  exact ⟨_, _, hcheck, rfl, hcounts o files _ _ _ rfl hcheck rfl⟩

end Pattern

end RollCall
