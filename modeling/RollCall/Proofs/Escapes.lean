import RollCall.Proofs.CommandLine.Flags
import RollCall.Proofs.Regex.Words
import RollCall.Proofs.Report
import RollCall.Proofs.Session

/-! Control characters in the output of a run without colour. They come from one place only: counts
in lines of text show the identifiers of the pods file as they are. -/
namespace RollCall
namespace Surroundings

variable {s : Surroundings} {o : Options} {t : Settings} {p : Pattern} {pods log : String}

/-- Which control characters a run without colour writes. -/
theorem mem_output_iff {c : Char} (hc : c.toNat < 0x20) (hne : c ≠ '\n')
    (hcolor : o.useColor t = false) (h : CommandLine.parse s.arguments = .ok o)
    (prepares : s.Prepares o t p) (hp : s.files.Holds o.podsFile pods)
    (hl : s.files.Holds o.logFile log) :
    c ∈ s.run.ending.output.toList ↔ o.outputFormat t = .text ∧
      (o.counts || t.showCounts) = true ∧ ∃ x ∈ p.identifierSet pods, c ∈ x.toList := by
  have houtput : s.run.ending.output =
      ((o.checkWith t p).result s.now pods log).report.render (o.outputFormat t) false := by
    rw [run_of_prepares h prepares hp hl]
    show s.written o t _ = _
    rw [written, hcolor, Bool.false_and]
  have hnames (x : String) : x ∈ (p.scan pods).unique.names ↔ x ∈ p.identifierSet pods :=
    Pattern.mem_unique_scan
  have hoccurrences : ((o.checkWith t p).result s.now pods log).report.occurrences =
      if o.counts || t.showCounts then
        some (Tally.count (p.scan pods).unique (p.scan log).raw) else none := rfl
  rw [houtput, Report.mem_render hc hne, hoccurrences]
  refine and_congr_right fun _ => ?_
  cases o.counts || t.showCounts with
  | true =>
    simp only [if_true, Option.some.injEq, exists_eq_left', Tally.map_fst_count, hnames, true_and]
  | false => simp

/-- With the word for no colour, an escape character is written exactly if counts are shown in lines
of text and an identifier of the pods file holds one. -/
theorem escape_in_output_iff {before after : List ByteArray}
    (hwords : s.arguments = before ++ "--no-color".toUTF8 :: after)
    (hbefore : "--".toUTF8 ∉ before) (h : CommandLine.parse s.arguments = .ok o)
    (prepares : s.Prepares o t p) (hp : s.files.Holds o.podsFile pods)
    (hl : s.files.Holds o.logFile log) :
    '\x1b' ∈ s.run.ending.output.toList ↔ o.outputFormat t = .text ∧
      (o.counts || t.showCounts) = true ∧ ∃ x ∈ p.identifierSet pods, '\x1b' ∈ x.toList := by
  have hcolor : o.useColor t = false := by
    rw [hwords] at h
    rw [Options.useColor, CommandLine.noColor_of_parse h hbefore]
    rfl
  exact mem_output_iff (by decide) (by decide) hcolor h prepares hp hl

/-- A run that counts the lines of two files, each of which is an escape sequence with a letter. -/
def countsEscapes : Surroundings where
  arguments := ["pods.txt", "log.txt", "--no-color", "--counts", "--pattern", ".+"].map String.toUTF8
  environment := []
  dotEnv := none
  files := fun _ => .ok "\x1b[31mx".toUTF8
  now := ⟨0, 0⟩
  terminal := false

theorem parse_countsEscapes : CommandLine.parse countsEscapes.arguments =
    .ok { podsFile := "pods.txt".toUTF8, logFile := "log.txt".toUTF8, pattern := some ".+"
          counts := true, noColor := true } := rfl

open Regex in
/-- A pattern of all characters of a line finds lines. -/
theorem identifiers_line : ∃ p, Pattern.ofSource ".+" = .ok p ∧
    p.identifiers "\x1b[31mx" = ["\x1b[31mx"] := by
  let dot : CharSet := ⟨[⟨0, 9⟩, ⟨11, 0xD7FF⟩, ⟨0xE000, 0x10FFFF⟩]⟩
  have hparse : Regex.parse ".+".toList = .ok (.repetition (.set dot) 1 none true) := by cbv
  refine ⟨_, Pattern.ofSource_of_parse hparse (by decide), ?_⟩
  rw [Pattern.identifiers_eq_words rfl rfl ((Expr.reaches_set dot).rounds (takes_set dot))
    (takes_rounds (takes_set dot))]
  have hlength : preferred (Expr.roundsLengths (Expr.setLengths dot)) "\x1b[31mx".toList = some 6 := by
    rw [preferred_rounds_set]
    decide
  rw [words_of_some hlength (by decide) (by decide)]
  rfl

theorem prepares_countsEscapes {p : Pattern} (h : Pattern.ofSource ".+" = .ok p) :
    countsEscapes.Prepares
      { podsFile := "pods.txt".toUTF8, logFile := "log.txt".toUTF8, pattern := some ".+"
        counts := true, noColor := true } {} p where
  settings := rfl
  notEmpty := by decide
  pattern := h

/-- What the words for no colour and for counts come to here. -/
theorem escape_in_output_countsEscapes : ∃ p, Pattern.ofSource ".+" = .ok p ∧
    ('\x1b' ∈ countsEscapes.run.ending.output.toList ↔
      ∃ x ∈ p.identifierSet "\x1b[31mx", '\x1b' ∈ x.toList) := by
  obtain ⟨p, hp, -⟩ := identifiers_line
  have hwords : countsEscapes.arguments = ["pods.txt", "log.txt"].map String.toUTF8 ++
      "--no-color".toUTF8 :: ["--counts", "--pattern", ".+"].map String.toUTF8 := rfl
  have hbefore : "--".toUTF8 ∉ ["pods.txt", "log.txt"].map String.toUTF8 := by
    intro hmem
    obtain ⟨word, hword, heq⟩ := List.mem_map.mp hmem
    have hsize : ∀ word ∈ ["pods.txt", "log.txt"], word.toUTF8.size ≠ "--".toUTF8.size := by decide
    exact hsize word hword (congrArg ByteArray.size heq)
  have h := escape_in_output_iff hwords hbefore parse_countsEscapes (prepares_countsEscapes hp)
    rfl rfl
  exact ⟨p, hp, by simpa [Options.outputFormat] using h⟩

/-- An escape character is written in spite of the word for no colour. -/
theorem escape_written_without_color :
    "--no-color".toUTF8 ∈ countsEscapes.arguments ∧ countsEscapes.run.ending.exitCode = 0 ∧
      '\x1b' ∈ countsEscapes.run.ending.output.toList := by
  obtain ⟨p, hp, hfound⟩ := identifiers_line
  refine ⟨List.mem_map_of_mem (by decide), ?_, ?_⟩
  · rw [run_of_prepares parse_countsEscapes (prepares_countsEscapes hp) rfl rfl]
    exact if_pos (CheckOptions.success_result_iff.mpr rfl)
  · rw [mem_output_iff (by decide) (by decide) rfl parse_countsEscapes (prepares_countsEscapes hp)
      rfl rfl]
    refine ⟨rfl, rfl, "\x1b[31mx", ⟨"\x1b[31mx", by decide, ?_⟩, by decide⟩
    rw [hfound]
    exact List.mem_singleton_self _

end Surroundings
end RollCall
