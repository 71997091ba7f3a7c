import RollCall.Proofs.Tally

/-! Appending to a log. What is found after a line feed does not depend on what stands before it, so
whole lines and what is appended to them are searched apart: nothing that was seen gets lost. -/
namespace RollCall

namespace Lines

theorem ofText_append {a : String} (ha : a = "" ∨ ∃ start, a = start ++ "\n") (b : String) :
    ofText (a ++ b) = ofText a ++ ofText b := by
  rcases ha with rfl | ⟨start, rfl⟩
  · rw [String.empty_append]
    rfl
  · have hfeed : "\n".toList = ['\n'] := by decide
    simp only [ofText, String.toList_append, hfeed, ← List.map_append]
    rw [List.append_assoc, List.singleton_append, split_append_feed]

end Lines

namespace Tally

variable {expected : Roster} {raw raw' : List String}

/-- The counts in two lists, one after the other, are the sums of the counts in each of them. -/
theorem mem_count_append {id : String} {n : Nat} :
    (id, n) ∈ count expected (raw ++ raw') ↔
      ∃ n₁ n₂, (id, n₁) ∈ count expected raw ∧ (id, n₂) ∈ count expected raw' ∧ n = n₁ + n₂ := by
  simp only [mem_count, occurrences, List.count_append]
  constructor
  · rintro ⟨hid, hn⟩
    exact ⟨_, _, ⟨hid, rfl⟩, ⟨hid, rfl⟩, hn⟩
  · rintro ⟨n₁, n₂, ⟨hid, rfl⟩, ⟨-, rfl⟩, hn⟩
    exact ⟨hid, hn⟩

end Tally

namespace Pattern

variable {p : Pattern}

theorem raw_scan_append {a : String} (ha : a = "" ∨ ∃ start, a = start ++ "\n") (b : String) :
    (p.scan (a ++ b)).raw = (p.scan a).raw ++ (p.scan b).raw := by
  show (Lines.ofText (a ++ b)).flatMap p.identifiers = _
  rw [Lines.ofText_append ha, List.flatMap_append]
  rfl

theorem identifierSet_append {a : String} (ha : a = "" ∨ ∃ start, a = start ++ "\n") (b : String) :
    p.identifierSet (a ++ b) = p.identifierSet a ∪ p.identifierSet b := by
  ext x
  simp only [identifierSet, Lines.ofText_append ha, List.mem_append, Set.mem_union,
    Set.mem_ofPred_eq, or_and_right, exists_or]

end Pattern

/-- The report on a log that was appended to, told by the reports on its two parts. -/
structure Report.Joins (first second whole : Report) : Prop where
  expected_first : whole.expected = first.expected
  expected_second : whole.expected = second.expected
  missing : ListsSet whole.missing ({x | x ∈ first.missing} ∩ {x | x ∈ second.missing})
  unexpected :
    ListsSet whole.unexpected ({x | x ∈ first.unexpected} ∪ {x | x ∈ second.unexpected})
  /-- Counts are taken for all of the reports or for none of them, and they add up. -/
  occurrences : first.occurrences = none ∧ second.occurrences = none ∧ whole.occurrences = none ∨
    ∃ t₁ t₂ t, first.occurrences = some t₁ ∧ second.occurrences = some t₂ ∧
      whole.occurrences = some t ∧ t.map Prod.fst = whole.expected ∧
      ∀ id n, (id, n) ∈ t ↔ ∃ n₁ n₂, (id, n₁) ∈ t₁ ∧ (id, n₂) ∈ t₂ ∧ n = n₁ + n₂

theorem ListsSet.setOf_mem {names : List String} {s : Set String} (h : ListsSet names s) :
    {x | x ∈ names} = s := Set.ext h.mem_iff

namespace CheckOptions

variable {o : CheckOptions} {now : Timestamp} {pods a b : String}

theorem eq_count_of_occurrences {log : String} {t : Tally}
    (h : (o.result now pods log).report.occurrences = some t) :
    t = .count (o.pattern.scan pods).unique (o.pattern.scan log).raw := by
  change (if o.showCounts then some (Tally.count _ _) else none) = some t at h
  split at h
  · exact (Option.some.inj h).symm
  · contradiction

/-- The checks of a log, of what is appended to it, and of both together. -/
theorem joins_result (first second : ByteArray) (ha : a = "" ∨ ∃ start, a = start ++ "\n") :
    ({ o with logFile := first }.result now pods a).report.Joins
      ({ o with logFile := second }.result now pods b).report
      (o.result now pods (a ++ b)).report where
  expected_first := rfl
  expected_second := rfl
  missing := by
    have hfirst := (o.pattern.listsSet_difference pods a).setOf_mem
    have hsecond := (o.pattern.listsSet_difference pods b).setOf_mem
    show ListsSet (o.result now pods (a ++ b)).report.missing
      ({x | x ∈ ((o.pattern.scan pods).unique.difference (o.pattern.scan a).unique).names} ∩
        {x | x ∈ ((o.pattern.scan pods).unique.difference (o.pattern.scan b).unique).names})
    rw [hfirst, hsecond, Set.sdiff_inter_sdiff, ← Pattern.identifierSet_append ha]
    exact o.pattern.listsSet_difference pods (a ++ b)
  unexpected := by
    have hfirst := (o.pattern.listsSet_difference a pods).setOf_mem
    have hsecond := (o.pattern.listsSet_difference b pods).setOf_mem
    show ListsSet (o.result now pods (a ++ b)).report.unexpected
      ({x | x ∈ ((o.pattern.scan a).unique.difference (o.pattern.scan pods).unique).names} ∪
        {x | x ∈ ((o.pattern.scan b).unique.difference (o.pattern.scan pods).unique).names})
    rw [hfirst, hsecond, ← Set.union_sdiff_distrib, ← Pattern.identifierSet_append ha]
    exact o.pattern.listsSet_difference (a ++ b) pods
  occurrences := by
    by_cases hcounts : o.showCounts = true
    · refine Or.inr ⟨_, _, _, if_pos hcounts, if_pos hcounts, if_pos hcounts, ?_, fun id n => ?_⟩
      · exact Tally.map_fst_count _ _
      · rw [Pattern.raw_scan_append ha]
        exact Tally.mem_count_append
    · exact Or.inl ⟨if_neg hcounts, if_neg hcounts, if_neg hcounts⟩

end CheckOptions

namespace Report.Joins

variable {first second whole : Report} {x : String}

theorem missing_first (h : first.Joins second whole) (hx : x ∈ whole.missing) :
    x ∈ first.missing := ((h.missing.mem_iff x).mp hx).1

theorem mem_unexpected (h : first.Joins second whole) (hx : x ∈ first.unexpected) :
    x ∈ whole.unexpected := (h.unexpected.mem_iff x).mpr (Or.inl hx)

end Report.Joins

/-- Searching whole lines and what is appended to them is searching either part. So a check of a log
that was appended to adds up the checks of the parts: it misses what both of them miss, whatever is
unexpected to either of them is unexpected to it, and each count is the sum of two. What is appended
to whole lines never makes a pod missing or an unexpected one expected, and lowers no count. -/
theorem Pattern.scan_append (p : Pattern) {a : String} (ha : a = "" ∨ ∃ start, a = start ++ "\n")
    (b : String) :
    (p.scan (a ++ b)).raw = (p.scan a).raw ++ (p.scan b).raw ∧
    (∀ x, x ∈ (p.scan (a ++ b)).unique ↔ x ∈ (p.scan a).unique ∨ x ∈ (p.scan b).unique) ∧
    ∀ (o : CheckOptions) (files : FileSystem) (now : Timestamp) (pods : String)
      (first second whole : ByteArray), files.Holds o.podsFile pods → files.Holds first a →
      files.Holds second b → files.Holds whole (a ++ b) →
      ∃ r₁ r₂ r, { o with pattern := p, logFile := first }.check files now = .ok r₁ ∧
        { o with pattern := p, logFile := second }.check files now = .ok r₂ ∧
        { o with pattern := p, logFile := whole }.check files now = .ok r ∧
        r₁.report.Joins r₂.report r.report ∧ (o.showCounts = r.report.occurrences.isSome) ∧
        (∀ x ∈ r.report.missing, x ∈ r₁.report.missing) ∧
        (∀ x ∈ r₁.report.unexpected, x ∈ r.report.unexpected) ∧
        ∀ t₁ t, r₁.report.occurrences = some t₁ → r.report.occurrences = some t →
          ∀ id n₁ n, (id, n₁) ∈ t₁ → (id, n) ∈ t → n₁ ≤ n := by
  refine ⟨raw_scan_append ha b, fun x => ?_, ?_⟩
  · rw [mem_unique_scan, mem_unique_scan, mem_unique_scan, identifierSet_append ha]
    exact Set.mem_union x _ _
  · intro o files now pods first second whole hpods hfirst hsecond hwhole
    have hjoins := @CheckOptions.joins_result { o with pattern := p, logFile := whole } now pods a b
      first second ha
    refine ⟨_, _, _, CheckOptions.check_of_holds hpods hfirst,
      CheckOptions.check_of_holds hpods hsecond, CheckOptions.check_of_holds hpods hwhole,
      hjoins, ?_, fun x => hjoins.missing_first, fun x => hjoins.mem_unexpected, ?_⟩
    · show o.showCounts = (if o.showCounts then some _ else none).isSome
      cases o.showCounts <;> rfl
    · intro t₁ t ht₁ ht id n₁ n hn₁ hn
      rw [CheckOptions.eq_count_of_occurrences ht₁] at hn₁
      rw [CheckOptions.eq_count_of_occurrences ht] at hn
      rw [(Tally.mem_count.mp hn₁).2, (Tally.mem_count.mp hn).2]
      show occurrences id (p.scan a).raw ≤ occurrences id (p.scan (a ++ b)).raw
      rw [raw_scan_append ha, occurrences, occurrences, List.count_append]
      exact Nat.le_add_right _ _

/-- A log of one letter, a line with both letters and no end, and the log with that line appended,
told apart by the length of their names. -/
def appendedFiles : FileSystem := fun path =>
  .ok (match path.size with
    | 1 => "b\n"
    | 2 => "ab\r"
    | _ => "b\nab\r").toUTF8

theorem Pattern.scan_append_letters : ∃ p, Pattern.ofSource "[ab]" = .ok p ∧
    ("b\n" = "" ∨ ∃ start, "b\n" = start ++ "\n") ∧
    (p.scan ("b\n" ++ "ab\r")).raw = (p.scan "b\n").raw ++ (p.scan "ab\r").raw ∧
    let o : CheckOptions := ⟨"pods".toUTF8, "all".toUTF8, p, true⟩
    ∃ r₁ r₂ r, { o with logFile := "1".toUTF8 }.check appendedFiles ⟨0, 0⟩ = .ok r₁ ∧
      { o with logFile := "22".toUTF8 }.check appendedFiles ⟨0, 0⟩ = .ok r₂ ∧
      o.check appendedFiles ⟨0, 0⟩ = .ok r ∧ r₁.report.Joins r₂.report r.report := by
  obtain ⟨p, hp⟩ := Pattern.exists_ofSource_letters
  have hline : "b\n" = "" ∨ ∃ start, "b\n" = start ++ "\n" := Or.inr ⟨"b", rfl⟩
  obtain ⟨hraw, -, hcheck⟩ := p.scan_append hline "ab\r"
  obtain ⟨r₁, r₂, r, h₁, h₂, h, hjoins, -⟩ := hcheck ⟨"pods".toUTF8, "all".toUTF8, p, true⟩
    appendedFiles ⟨0, 0⟩ "b\nab\r" "1".toUTF8 "22".toUTF8 "all".toUTF8 rfl rfl rfl rfl
  exact ⟨p, hp, hline, hraw, r₁, r₂, r, h₁, h₂, h, hjoins⟩

end RollCall
