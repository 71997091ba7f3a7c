import RollCall.Proofs.Extraction

/-! The verdict of a check: which file ends it, and what the report says about the identifiers of
the two files. -/
namespace RollCall

/-- The list holds each member of the set once, in ascending order of bytes. -/
structure ListsSet (names : List String) (s : Set String) : Prop where
  mem_iff : ∀ x, x ∈ names ↔ x ∈ s
  ascending : names.Pairwise fun x y => Utf8.bytesOf x < Utf8.bytesOf y

theorem Roster.listsSet {r : Roster} {s : Set String} (h : ∀ x, x ∈ r ↔ x ∈ s) :
    ListsSet r.names s where
  mem_iff := h
  ascending := r.ascending.imp Utf8.bytesOf_lt_iff.mpr

namespace Pattern

variable {p : Pattern}

theorem listsSet_unique (text : String) :
    ListsSet (p.scan text).unique.names (p.identifierSet text) :=
  Roster.listsSet fun _ => mem_unique_scan

theorem listsSet_difference (s t : String) :
    ListsSet ((p.scan s).unique.difference (p.scan t).unique).names
      (p.identifierSet s \ p.identifierSet t) := by
  refine Roster.listsSet fun x => ?_
  rw [Roster.mem_difference, mem_unique_scan, mem_unique_scan]
  rfl

end Pattern

namespace CheckOptions

variable {o : CheckOptions} {files : FileSystem} {now : Timestamp}

def swapFiles (o : CheckOptions) : CheckOptions :=
  { o with podsFile := o.logFile, logFile := o.podsFile }

/-- What a check finds out about the texts of its files. -/
def result (o : CheckOptions) (now : Timestamp) (pods log : String) : CheckResult where
  report := .build (.of (o.pattern.scan pods).unique (o.pattern.scan log).unique) o.pattern.source
    (Utf8.display o.podsFile) (Utf8.display o.logFile)
    (if o.showCounts then
      some (Tally.count (o.pattern.scan pods).unique (o.pattern.scan log).raw) else none) now
  noPods := (o.pattern.scan pods).isEmpty

theorem check_of_holds {pods log : String} (hp : files.Holds o.podsFile pods)
    (hl : files.Holds o.logFile log) : o.check files now = .ok (o.result now pods log) := by
  unfold check
  rw [Pattern.scanFile_of_holds hp, Pattern.scanFile_of_holds hl]
  rfl

theorem check_of_refuses_pods {e : ReadError} (hp : files.Refuses o.podsFile e) :
    o.check files now = .error (.fileAccess o.podsFile e) := by
  unfold check
  rw [Pattern.scanFile_of_refuses hp]
  rfl

theorem check_of_refuses_log {e : ReadError} (hp : files.Readable o.podsFile)
    (hl : files.Refuses o.logFile e) : o.check files now = .error (.fileAccess o.logFile e) := by
  obtain ⟨pods, hp⟩ := hp
  unfold check
  rw [Pattern.scanFile_of_holds hp, Pattern.scanFile_of_refuses hl]
  rfl

theorem check_eq_ok_iff {r : CheckResult} :
    o.check files now = .ok r ↔ ∃ pods log, files.Holds o.podsFile pods ∧
      files.Holds o.logFile log ∧ r = o.result now pods log := by
  constructor
  · intro h
    rcases files.readable_or_refuses o.podsFile with ⟨pods, hp⟩ | ⟨e, he⟩
    · rcases files.readable_or_refuses o.logFile with ⟨log, hl⟩ | ⟨e, he⟩
      · rw [check_of_holds hp hl] at h
        exact ⟨pods, log, hp, hl, (Except.ok.inj h).symm⟩
      · rw [check_of_refuses_log ⟨pods, hp⟩ he] at h
        contradiction
    · rw [check_of_refuses_pods he] at h
      contradiction
  · rintro ⟨pods, log, hp, hl, rfl⟩
    exact check_of_holds hp hl

theorem success_result_iff {pods log : String} :
    (o.result now pods log).report.success = true ↔
      o.pattern.identifierSet pods = o.pattern.identifierSet log := by
  change (Comparison.of _ _).isMatch = true ↔ _
  rw [Comparison.isMatch_of_iff]
  constructor
  · intro h
    ext x
    rw [← Pattern.mem_unique_scan, ← Pattern.mem_unique_scan, h]
  · intro h
    apply Roster.ext_mem
    intro x
    rw [Pattern.mem_unique_scan, Pattern.mem_unique_scan, h]

/-- A check reports iff both files hold a text, and otherwise names the first one that does not. The
report lists the identifiers of either file and what either side lacks, its verdict is that of each
way to compare the two sets, and exchanging the files exchanges the sides. -/
theorem check_verdict (o : CheckOptions) (files : FileSystem) (now : Timestamp) :
    ((∃ r, o.check files now = .ok r) ↔
      files.Readable o.podsFile ∧ files.Readable o.logFile) ∧
    (¬ files.Readable o.podsFile → ∃ e, files.Refuses o.podsFile e ∧
      o.check files now = .error (.fileAccess o.podsFile e)) ∧
    (files.Readable o.podsFile → ¬ files.Readable o.logFile → ∃ e, files.Refuses o.logFile e ∧
      o.check files now = .error (.fileAccess o.logFile e)) ∧
    ∀ pods log r, files.Holds o.podsFile pods → files.Holds o.logFile log →
      o.check files now = .ok r →
      let expected := o.pattern.identifierSet pods
      let observed := o.pattern.identifierSet log
      ListsSet r.report.expected expected ∧ ListsSet r.report.observed observed ∧
      ListsSet r.report.missing (expected \ observed) ∧
      ListsSet r.report.unexpected (observed \ expected) ∧
      (r.report.success = true ↔ expected = observed) ∧
      (r.report.success = true ↔ r.report.missing = [] ∧ r.report.unexpected = []) ∧
      r.report.success =
        Roster.agrees (.ofList r.report.expected) (.ofList r.report.observed) ∧
      ∃ r', o.swapFiles.check files now = .ok r' ∧
        r'.report.expected = r.report.observed ∧ r'.report.observed = r.report.expected ∧
        r'.report.missing = r.report.unexpected ∧ r'.report.unexpected = r.report.missing ∧
        r'.report.success = r.report.success := by
  refine ⟨?_, ?_, ?_, ?_⟩
  · constructor
    · rintro ⟨r, h⟩
      obtain ⟨pods, log, hp, hl, _⟩ := check_eq_ok_iff.mp h
      exact ⟨⟨pods, hp⟩, ⟨log, hl⟩⟩
    · rintro ⟨⟨pods, hp⟩, ⟨log, hl⟩⟩
      exact ⟨_, check_of_holds hp hl⟩
  · intro hp
    obtain ⟨e, he⟩ := (files.readable_or_refuses o.podsFile).resolve_left hp
    exact ⟨e, he, check_of_refuses_pods he⟩
  · intro hp hl
    obtain ⟨e, he⟩ := (files.readable_or_refuses o.logFile).resolve_left hl
    exact ⟨e, he, check_of_refuses_log hp he⟩
  · intro pods log r hp hl h
    rw [check_of_holds hp hl] at h
    obtain rfl := Except.ok.inj h
    refine ⟨Pattern.listsSet_unique pods, Pattern.listsSet_unique log,
      Pattern.listsSet_difference pods log, Pattern.listsSet_difference log pods,
      success_result_iff, ?_, ?_, ?_⟩
    · change (Comparison.of _ _).isMatch = true ↔ _
      simp only [Comparison.isMatch, Bool.and_eq_true, Roster.isEmpty_iff]
      rfl
    · change (Comparison.of _ _).isMatch = _
      rw [← Comparison.agrees_eq_isMatch]
      change _ = Roster.agrees (.ofList (Roster.names _)) (.ofList (Roster.names _))
      rw [Roster.ofList_names, Roster.ofList_names]
      rfl
    · refine ⟨o.swapFiles.result now log pods, check_of_holds hl hp, rfl, rfl, rfl, rfl, ?_⟩
      rw [Bool.eq_iff_iff, success_result_iff, success_result_iff]
      exact eq_comm

end CheckOptions

end RollCall
