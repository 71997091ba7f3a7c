import Mathlib.Algebra.BigOperators.Group.List.Basic
import RollCall.Proofs.Check
import RollCall.Proofs.Regex.Words

/-! Counts of observations. One pass over a log counts for each identifier what a pass of its own
would count, and the counts tell the same verdict as the sets. -/
namespace RollCall

namespace Tally

variable {expected : Roster} {raw : List String}

theorem occurrences_cons (name id : String) (raw : List String) :
    occurrences name (id :: raw) = occurrences name raw + if id = name then 1 else 0 := by
  simp only [occurrences, List.count_cons, beq_iff_eq]

/-- An observation changes the count of its own identifier only. -/
theorem bump_map (id : String) (names : List String) (n : String → Nat) :
    bump id (names.map fun name => (name, n name)) =
      names.map fun name => (name, n name + if id = name then 1 else 0) := by
  rw [bump, List.map_map]
  apply List.map_congr_left
  intro name _
  show (if name = id then (name, n name + 1) else (name, n name)) = _
  by_cases h : name = id
  · rw [if_pos h, if_pos h.symm]
  · rw [if_neg h, if_neg (Ne.symm h), Nat.add_zero]

/-- The pass adds to each count how often its identifier occurs in the raw list. -/
theorem foldl_bump (raw names : List String) (n : String → Nat) :
    raw.foldl (fun t id => bump id t) (names.map fun name => (name, n name)) =
      names.map fun name => (name, n name + occurrences name raw) := by
  induction raw generalizing n with
  | nil => rfl
  | cons id raw ih =>
    rw [List.foldl_cons, bump_map, ih]
    apply List.map_congr_left
    intro name _
    rw [occurrences_cons, Nat.add_assoc, Nat.add_comm (occurrences name raw)]

theorem count_eq (expected : Roster) (raw : List String) :
    count expected raw = expected.names.map fun name => (name, occurrences name raw) := by
  rw [count, foldl_bump]
  simp only [Nat.zero_add]

/-- The identifiers that are counted are the expected ones. -/
theorem map_fst_count (expected : Roster) (raw : List String) :
    (count expected raw).map Prod.fst = expected.names := by
  rw [count_eq, List.map_map]
  exact List.map_id' expected.names

theorem mem_count {id : String} {n : Nat} :
    (id, n) ∈ count expected raw ↔ id ∈ expected ∧ n = occurrences id raw := by
  rw [count_eq, List.mem_map]
  constructor
  · rintro ⟨name, hname, heq⟩
    obtain ⟨rfl, rfl⟩ := Prod.mk.inj heq
    exact ⟨hname, rfl⟩
  · rintro ⟨hid, rfl⟩
    exact ⟨id, hid, rfl⟩

/-- The elements that are one of several identifiers are those of the first and those of the rest. -/
theorem countP_mem_cons {name : String} {names : List String} (h : name ∉ names)
    (raw : List String) :
    raw.countP (· ∈ name :: names) = occurrences name raw + raw.countP (· ∈ names) := by
  induction raw with
  | nil => rfl
  | cons x raw ih =>
    rw [List.countP_cons, List.countP_cons, occurrences_cons, ih]
    by_cases hx : x = name
    · subst hx
      simp [h]
      omega
    · simp [hx]
      omega

/-- Counting by identifiers is counting by elements. -/
theorem sum_occurrences {names : List String} (h : names.Nodup) (raw : List String) :
    (names.map fun name => occurrences name raw).sum = raw.countP (· ∈ names) := by
  induction names with
  | nil => simp
  | cons name names ih =>
    obtain ⟨hname, hnames⟩ := List.nodup_cons.mp h
    rw [List.map_cons, List.sum_cons, ih hnames, countP_mem_cons hname]

theorem sum_count (expected : Roster) (raw : List String) :
    ((count expected raw).map Prod.snd).sum = raw.countP (· ∈ expected.names) := by
  have hnodup : expected.names.Nodup := expected.ascending.imp fun h => ne_of_lt h
  rw [count_eq, List.map_map, ← sum_occurrences hnodup]
  rfl

/-- The counts make up the whole list iff nothing in it is unexpected. -/
theorem sum_count_eq_length_iff :
    ((count expected raw).map Prod.snd).sum = raw.length ↔
      ((Roster.ofList raw).difference expected).names = [] := by
  rw [sum_count, List.countP_eq_length, ← Roster.isEmpty_iff, Roster.difference_isEmpty_iff]
  simp only [Roster.mem_ofList, decide_eq_true_eq]
  rfl

/-- The identifiers with the count zero are those that are missing. -/
theorem map_fst_filter_count (expected : Roster) (raw : List String) :
    ((count expected raw).filter fun entry => entry.2 = 0).map Prod.fst =
      (expected.difference (.ofList raw)).names := by
  have hsub : (((count expected raw).filter fun entry => entry.2 = 0).map Prod.fst).Sublist
      expected.names := by
    rw [← map_fst_count expected raw]
    exact List.filter_sublist.map Prod.fst
  refine (expected.ascending.sublist hsub).eq_of_mem_iff (Roster.ascending _) fun {x} => ?_
  show _ ↔ x ∈ expected.difference (.ofList raw)
  rw [Roster.mem_difference, Roster.mem_ofList, List.mem_map]
  constructor
  · rintro ⟨⟨id, n⟩, hentry, rfl⟩
    obtain ⟨hmem, hzero⟩ := List.mem_filter.mp hentry
    obtain ⟨hid, rfl⟩ := mem_count.mp hmem
    exact ⟨hid, List.count_eq_zero.mp (of_decide_eq_true hzero)⟩
  · rintro ⟨hid, hraw⟩
    have hzero : occurrences x raw = 0 := List.count_eq_zero.mpr hraw
    exact ⟨(x, 0), List.mem_filter.mpr ⟨mem_count.mpr ⟨hid, hzero.symm⟩, rfl⟩, rfl⟩

/-- Every count is at least one iff nothing is missing. -/
theorem one_le_count_iff :
    (∀ entry ∈ count expected raw, 1 ≤ entry.2) ↔
      (expected.difference (.ofList raw)).names = [] := by
  rw [← map_fst_filter_count, List.map_eq_nil_iff, List.filter_eq_nil_iff]
  refine forall₂_congr fun entry _ => ?_
  rw [decide_eq_true_eq]
  exact Nat.one_le_iff_ne_zero

end Tally

namespace CheckOptions

variable {o : CheckOptions} {files : FileSystem} {now : Timestamp} {r : CheckResult}

/-- A check that counts reads the log and counts the expected identifiers in its raw list. -/
theorem exists_count_of_check (hcounts : o.showCounts = true) (h : o.check files now = .ok r) :
    ∃ expected log, o.pattern.scanFile files o.logFile = .ok log ∧
      r.report.occurrences = some (Tally.count expected log.raw) ∧
      r.report.expected = expected.names ∧
      r.report.missing = (expected.difference (.ofList log.raw)).names ∧
      r.report.unexpected = ((Roster.ofList log.raw).difference expected).names ∧
      (r.report.success = true ↔ r.report.missing = [] ∧ r.report.unexpected = []) := by
  obtain ⟨pods, log, hp, hl, rfl⟩ := check_eq_ok_iff.mp h
  refine ⟨(o.pattern.scan pods).unique, o.pattern.scan log, Pattern.scanFile_of_holds hl,
    if_pos hcounts, rfl, rfl, rfl, ?_⟩
  change (Comparison.of _ _).isMatch = true ↔ _
  simp only [Comparison.isMatch, Bool.and_eq_true, Roster.isEmpty_iff]
  rfl

end CheckOptions

/-- The counts are kept for the expected identifiers, in ascending order, each of them is the number
of times that its identifier occurs, and together they are the expected elements of the raw list. So
the counts of a check tell what is missing, and with the length of the raw list of the log they tell
whether anything is unexpected, and the verdict. -/
theorem Tally.count_verdict (expected : Roster) (raw : List String) :
    ListsSet ((count expected raw).map Prod.fst) {id | id ∈ expected} ∧
    (∀ id n, (id, n) ∈ count expected raw ↔ id ∈ expected ∧ n = occurrences id raw) ∧
    ((count expected raw).map Prod.snd).sum = (raw.filter (· ∈ expected.names)).length ∧
    ∀ (o : CheckOptions) (files : FileSystem) (now : Timestamp) (r : CheckResult),
      o.showCounts = true → o.check files now = .ok r →
      ∃ tally log, r.report.occurrences = some tally ∧
        o.pattern.scanFile files o.logFile = .ok log ∧
        tally.map Prod.fst = r.report.expected ∧
        (tally.filter fun entry => entry.2 = 0).map Prod.fst = r.report.missing ∧
        ((tally.map Prod.snd).sum = log.raw.length ↔ r.report.unexpected = []) ∧
        (r.report.success = true ↔
          (∀ entry ∈ tally, 1 ≤ entry.2) ∧ (tally.map Prod.snd).sum = log.raw.length) := by
  refine ⟨?_, fun id n => mem_count, ?_, ?_⟩
  · rw [map_fst_count]
    exact Roster.listsSet fun id => Iff.rfl
  · rw [sum_count, List.countP_eq_length_filter]
  · intro o files now r hcounts h
    obtain ⟨expected, log, hlog, htally, hexpected, hmissing, hunexpected, hsuccess⟩ :=
      CheckOptions.exists_count_of_check hcounts h
    refine ⟨count expected log.raw, log, htally, hlog, ?_, ?_, ?_, ?_⟩
    · rw [map_fst_count, hexpected]
    · rw [map_fst_filter_count, hmissing]
    · rw [sum_count_eq_length_iff, hunexpected]
    · rw [hsuccess, hmissing, hunexpected, one_le_count_iff, sum_count_eq_length_iff]

/-- The counts of a check whose two files are the same, with one letter twice. -/
theorem Tally.count_verdict_letters : ∃ p, Pattern.ofSource "[ab]" = .ok p ∧
    let o : CheckOptions := ⟨"pods.txt".toUTF8, "log.txt".toUTF8, p, true⟩
    let files : FileSystem := fun _ => .ok "ab\na\n".toUTF8
    o.showCounts = true ∧ ∃ r, o.check files ⟨0, 0⟩ = .ok r ∧
      ∃ tally log, r.report.occurrences = some tally ∧
        o.pattern.scanFile files o.logFile = .ok log ∧
        tally.map Prod.fst = r.report.expected ∧
        (tally.filter fun entry => entry.2 = 0).map Prod.fst = r.report.missing ∧
        ((tally.map Prod.snd).sum = log.raw.length ↔ r.report.unexpected = []) ∧
        (r.report.success = true ↔
          (∀ entry ∈ tally, 1 ≤ entry.2) ∧ (tally.map Prod.snd).sum = log.raw.length) := by
  obtain ⟨p, hp⟩ := Pattern.exists_ofSource_letters
  refine ⟨p, hp, rfl, _, CheckOptions.check_of_holds rfl rfl, ?_⟩
  obtain ⟨-, -, -, hcheck⟩ := Tally.count_verdict default []
  exact hcheck _ _ _ _ rfl (CheckOptions.check_of_holds rfl rfl)

end RollCall
