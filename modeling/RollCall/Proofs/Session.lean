import RollCall.Proofs.Check
import RollCall.Proofs.Choice
import RollCall.Proofs.DotEnv.Load
import RollCall.Proofs.Settings.Parts
import RollCall.Session

/-! How a run ends: what it writes, and its exit status. Unless it breaks off while it loads its
settings, a run is refused, fails or reports, and which of them is told by its arguments, its
settings, its pattern and its two files. -/
namespace RollCall

def Options.checkWith (o : Options) (t : Settings) (p : Pattern) : CheckOptions where
  podsFile := o.podsFile
  logFile := o.logFile
  pattern := p
  showCounts := o.counts || t.showCounts

theorem Crash.exitCode_ne_zero (c : Crash) : c.exitCode ≠ 0 := by
  cases c <;> decide

namespace Surroundings

/-- The settings of the run are loaded and its pattern is made. -/
structure Prepares (s : Surroundings) (o : Options) (t : Settings) (p : Pattern) : Prop where
  settings : s.settings = .ok t
  notEmpty : o.ownPattern t ≠ some ""
  pattern : Pattern.ofSource (o.patternSource t) = .ok p

/-- The first thing that goes wrong, in the order of settings, pattern, pods file and log. -/
inductive FirstFailure (s : Surroundings) (o : Options) : Failure → Prop
  | settings {e : Settings.Invalid} (h : s.settings = .error (.invalid e)) :
      FirstFailure s o (.settings e.message)
  | emptyPattern {t : Settings} (ht : s.settings = .ok t) (h : o.ownPattern t = some "") :
      FirstFailure s o (.invalidArguments "pattern must not be empty")
  | pattern {t : Settings} {e : Regex.PatternError} (ht : s.settings = .ok t)
      (hne : o.ownPattern t ≠ some "") (h : Pattern.ofSource (o.patternSource t) = .error e) :
      FirstFailure s o (.pattern e)
  | podsFile {t : Settings} {p : Pattern} {e : ReadError} (hp : s.Prepares o t p)
      (h : s.files.Refuses o.podsFile e) : FirstFailure s o (.fileAccess o.podsFile e)
  | logFile {t : Settings} {p : Pattern} {e : ReadError} (hp : s.Prepares o t p)
      (hpods : s.files.Readable o.podsFile) (h : s.files.Refuses o.logFile e) :
      FirstFailure s o (.fileAccess o.logFile e)

variable {s : Surroundings} {o : Options}

def written (s : Surroundings) (o : Options) (t : Settings) (r : CheckResult) : String :=
  r.report.render (o.outputFormat t)
    (o.useColor t && s.fullEnvironment.allowsColor s.terminal)

/-- The outcome of a check that found out `r`. -/
def outcomeOf (s : Surroundings) (o : Options) (t : Settings) (p : Pattern) (r : CheckResult) :
    Outcome where
  ending := .reported (s.written o t r) r.report.success
  warned := r.noPods && (LogFilter.ofSetting (s.fullEnvironment.get? filterVariable)
    (if o.verbose then .debug else .warn)).passes (warningEvent (o.checkWith t p))

/-- The stages of a check one after the other. -/
theorem check_eq_bind (s : Surroundings) (o : Options) :
    s.check o = (s.settings.mapError Ending.ofObstacle).bind fun t =>
      ((o.choosePattern t).mapError Ending.failed).bind fun p =>
        (((o.checkWith t p).check s.files s.now).map (s.outcomeOf o t p)).mapError Ending.failed := by
  unfold check Options.checkOptions
  cases s.settings with
  | error e => rfl
  | ok t =>
    cases hp : o.choosePattern t with
    | error f => simp only [bind, Except.bind, Except.map, Except.mapError, hp]
    | ok p =>
      have hwith : (⟨o.podsFile, o.logFile, p, o.counts || t.showCounts⟩ : CheckOptions) =
        o.checkWith t p := rfl
      simp only [bind, Except.bind, Except.map, Except.mapError, hp, hwith]
      cases (o.checkWith t p).check s.files s.now <;> rfl

theorem check_of_prepares {t : Settings} {p : Pattern} (h : s.Prepares o t p) :
    s.check o =
      (((o.checkWith t p).check s.files s.now).map (s.outcomeOf o t p)).mapError Ending.failed := by
  rw [check_eq_bind, h.settings]
  simp only [Except.mapError, Except.bind, Options.choosePattern_of_ne h.notEmpty, h.pattern]

theorem check_of_firstFailure {f : Failure} (h : s.FirstFailure o f) :
    s.check o = .error (.failed f) := by
  cases h with
  | settings h =>
    simp only [check_eq_bind, h, Except.mapError, Except.bind]
    rfl
  | emptyPattern ht h =>
    simp only [check_eq_bind, ht, Options.choosePattern_of_empty h, Except.mapError, Except.bind]
  | pattern ht hne h =>
    simp only [check_eq_bind, ht, Options.choosePattern_of_ne hne, h, Except.mapError, Except.bind]
  | podsFile hp h => rw [check_of_prepares hp, CheckOptions.check_of_refuses_pods h]; rfl
  | logFile hp hpods h => rw [check_of_prepares hp, CheckOptions.check_of_refuses_log hpods h]; rfl

theorem check_of_crash {c : Crash} (h : s.settings = .error (.crash c)) :
    s.check o = .error (.crashed c) := by
  rw [check_eq_bind, h]
  rfl

theorem run_of_crash {c : Crash} (h : CommandLine.parse s.arguments = .ok o)
    (hcrash : s.settings = .error (.crash c)) : s.run = ⟨.crashed c, false⟩ := by
  simp only [run, h, check_of_crash hcrash]

/-- A run with options breaks off, fails somewhere, or reads both files. -/
theorem crash_or_firstFailure_or_prepares (s : Surroundings) (o : Options) :
    (∃ c, s.settings = .error (.crash c)) ∨ (∃ f, s.FirstFailure o f) ∨
      ∃ t p pods log, s.Prepares o t p ∧ s.files.Holds o.podsFile pods ∧
        s.files.Holds o.logFile log := by
  cases ht : s.settings with
  | error e =>
    cases e with
    | crash c => exact Or.inl ⟨c, rfl⟩
    | invalid e => exact Or.inr (Or.inl ⟨_, .settings ht⟩)
  | ok t =>
    right
    by_cases hne : o.ownPattern t = some ""
    · exact Or.inl ⟨_, .emptyPattern ht hne⟩
    cases hp : Pattern.ofSource (o.patternSource t) with
    | error e => exact Or.inl ⟨_, .pattern ht hne hp⟩
    | ok p =>
      rcases s.files.readable_or_refuses o.podsFile with ⟨pods, hpods⟩ | ⟨e, he⟩
      · rcases s.files.readable_or_refuses o.logFile with ⟨log, hlog⟩ | ⟨e, he⟩
        · exact Or.inr ⟨t, p, pods, log, ⟨ht, hne, hp⟩, hpods, hlog⟩
        · exact Or.inl ⟨_, .logFile ⟨ht, hne, hp⟩ ⟨pods, hpods⟩ he⟩
      · exact Or.inl ⟨_, .podsFile ⟨ht, hne, hp⟩ he⟩

/-- The command line leads to no check: help and version are shown, all else is an error. -/
inductive EndsRefused (s : Surroundings) (e : Ending) : Prop
  | help {full : Bool} (h : CommandLine.parse s.arguments = .error (.help full))
      (code : e.exitCode = 0) (output : e.output = CommandLine.helpText full)
      (error : e.errorText? = none)
  | version (h : CommandLine.parse s.arguments = .error .version)
      (code : e.exitCode = 0) (output : e.output = CommandLine.versionText)
      (error : e.errorText? = none)
  | usage {u : UsageError} (h : CommandLine.parse s.arguments = .error (.usage u))
      (code : e.exitCode = 2) (output : e.output = "")
      (error : e.errorText? = some ("error: " ++ u.message))

/-- The exit status and the line of each kind of failure: 2 for wrong settings, within their
context, and a wrong invocation, and 1 for all else. -/
inductive Announced : Failure → (code : Nat) → (line : String) → Prop
  | settings (reason : String) : Announced (.settings reason) 2
      ("Error: Failed to load configuration: Configuration error: " ++ reason)
  | invalidArguments (reason : String) : Announced (.invalidArguments reason) 2
      ("Error: Invalid arguments: " ++ reason)
  | malformedPattern : Announced (.pattern .malformed) 1
      "Error: Invalid pattern: regex parse error:"
  | largePattern : Announced (.pattern .tooLarge) 1
      "Error: Invalid pattern: Compiled regex exceeds size limit of 10485760 bytes."
  | fileAccess (path : ByteArray) (e : ReadError) : Announced (.fileAccess path e) 1
      ("Error: Could not read file " ++ Utf8.display path ++ ": " ++ e.message)

/-- Something goes wrong: nothing is written to the output, and the first failure is announced. -/
inductive EndsFailed (s : Surroundings) (e : Ending) : Prop
  | intro {o : Options} {f : Failure} {line : String} (h : CommandLine.parse s.arguments = .ok o)
      (first : s.FirstFailure o f) (announced : Announced f e.exitCode line)
      (output : e.output = "") (error : e.errorText? = some line)

/-- The run breaks off while its settings are loaded: nothing is written to the output, and no error
of its own is announced. -/
inductive EndsCrashed (s : Surroundings) (e : Ending) : Prop
  | intro {o : Options} {c : Crash} (h : CommandLine.parse s.arguments = .ok o)
      (crash : s.settings = .error (.crash c)) (code : e.exitCode = c.exitCode)
      (output : e.output = "") (error : e.errorText? = none)

/-- Both files are read, and the output is the report of their check in the chosen format. -/
inductive EndsReported (s : Surroundings) (e : Ending) : Prop
  | intro {o : Options} {t : Settings} {p : Pattern} {pods log : String} {r : CheckResult}
      (h : CommandLine.parse s.arguments = .ok o) (prepares : s.Prepares o t p)
      (pods_holds : s.files.Holds o.podsFile pods) (log_holds : s.files.Holds o.logFile log)
      (checked : (o.checkWith t p).check s.files s.now = .ok r)
      (output : e.output = s.written o t r) (error : e.errorText? = none)
      (agree : p.identifierSet pods = p.identifierSet log → e.exitCode = 0)
      (differ : p.identifierSet pods ≠ p.identifierSet log → e.exitCode = 1)

private theorem literal_append {a b c : String} (h : a ++ b = c) (rest : String) :
    c ++ rest = a ++ (b ++ rest) := by
  rw [← h, String.append_assoc]

theorem announced (f : Failure) : Announced f f.exitCode ("Error: " ++ f.chain) := by
  cases f with
  | settings reason =>
    have h : "Error: Failed to load configuration: Configuration error: " ++ reason =
        "Error: " ++ (Failure.settings reason).chain := by
      change _ = "Error: " ++
        ("Failed to load configuration: " ++ ("Configuration error: " ++ reason) ++ "")
      rw [String.append_empty, ← String.append_assoc]
      exact literal_append (by decide) _
    exact h ▸ .settings reason
  | invalidArguments reason =>
    have h : "Error: Invalid arguments: " ++ reason =
        "Error: " ++ (Failure.invalidArguments reason).chain := by
      change _ = "Error: " ++ ("" ++ ("Invalid arguments: " ++ reason) ++ "")
      rw [String.append_empty, String.empty_append]
      exact literal_append (by decide) _
    exact h ▸ .invalidArguments reason
  | fileAccess path e =>
    have h : "Error: Could not read file " ++ Utf8.display path ++ ": " ++ e.message =
        "Error: " ++ (Failure.fileAccess path e).chain := by
      change _ = "Error: " ++
        ("" ++ ("Could not read file " ++ Utf8.display path) ++ (": " ++ e.message))
      rw [String.empty_append, String.append_assoc, String.append_assoc, String.append_assoc]
      exact literal_append (by decide) _
    exact h ▸ .fileAccess path e
  | pattern e =>
    cases e with
    | malformed => exact .malformedPattern
    | tooLarge => exact .largePattern

theorem endsRefused_of_parse {r : Refusal} (h : CommandLine.parse s.arguments = .error r) :
    s.EndsRefused s.run.ending := by
  have hrun : s.run = ⟨.refused r, false⟩ := by simp only [run, h]
  rw [hrun]
  cases r with
  | help full => exact .help h rfl rfl rfl
  | version => exact .version h rfl rfl rfl
  | usage u => exact .usage h rfl rfl rfl

theorem endsCrashed_of_crash {c : Crash} (h : CommandLine.parse s.arguments = .ok o)
    (hcrash : s.settings = .error (.crash c)) : s.EndsCrashed s.run.ending := by
  rw [run_of_crash h hcrash]
  exact .intro h hcrash rfl rfl rfl

theorem endsFailed_of_firstFailure {f : Failure} (h : CommandLine.parse s.arguments = .ok o)
    (first : s.FirstFailure o f) : s.EndsFailed s.run.ending := by
  have hrun : s.run = ⟨.failed f, false⟩ := by simp only [run, h, check_of_firstFailure first]
  rw [hrun]
  exact .intro h first (announced f) rfl rfl

theorem run_of_prepares {t : Settings} {p : Pattern} {pods log : String}
    (h : CommandLine.parse s.arguments = .ok o) (prepares : s.Prepares o t p)
    (hp : s.files.Holds o.podsFile pods) (hl : s.files.Holds o.logFile log) :
    s.run = s.outcomeOf o t p ((o.checkWith t p).result s.now pods log) := by
  have hchecked : (o.checkWith t p).check s.files s.now =
      .ok ((o.checkWith t p).result s.now pods log) := CheckOptions.check_of_holds hp hl
  simp only [run, h, check_of_prepares prepares, hchecked, Except.map, Except.mapError]

theorem endsReported_of_prepares {t : Settings} {p : Pattern} {pods log : String}
    (h : CommandLine.parse s.arguments = .ok o) (prepares : s.Prepares o t p)
    (hp : s.files.Holds o.podsFile pods) (hl : s.files.Holds o.logFile log) :
    s.EndsReported s.run.ending := by
  have hsuccess : ((o.checkWith t p).result s.now pods log).report.success = true ↔
      p.identifierSet pods = p.identifierSet log := CheckOptions.success_result_iff
  rw [run_of_prepares h prepares hp hl]
  refine .intro h prepares hp hl (CheckOptions.check_of_holds hp hl) rfl rfl (fun heq => ?_)
    fun hne => ?_
  · exact if_pos (hsuccess.mpr heq)
  · exact if_neg fun e => hne (hsuccess.mp e)

variable {e : Ending}

theorem EndsRefused.parse_eq (h : s.EndsRefused e) :
    ∃ r, CommandLine.parse s.arguments = .error r := by
  cases h with
  | help h | version h | usage h => exact ⟨_, h⟩

theorem EndsFailed.check_eq (h : s.EndsFailed e) :
    ∃ o f, CommandLine.parse s.arguments = .ok o ∧ s.check o = .error (.failed f) := by
  obtain ⟨h, first⟩ := h
  exact ⟨_, _, h, check_of_firstFailure first⟩

theorem EndsReported.check_eq (h : s.EndsReported e) :
    ∃ o outcome, CommandLine.parse s.arguments = .ok o ∧ s.check o = .ok outcome := by
  obtain ⟨h, prepares, -, -, checked⟩ := h
  exact ⟨_, _, h, by rw [check_of_prepares prepares, checked]; rfl⟩

theorem EndsFailed.not_reported (h : s.EndsFailed e) : ¬ s.EndsReported e := by
  intro h'
  obtain ⟨o, f, ho, hf⟩ := h.check_eq
  obtain ⟨o', outcome, ho', houtcome⟩ := h'.check_eq
  obtain rfl := Except.ok.inj (ho.symm.trans ho')
  rw [hf] at houtcome
  contradiction

theorem EndsRefused.not_failed (h : s.EndsRefused e) : ¬ s.EndsFailed e := by
  intro h'
  obtain ⟨r, hr⟩ := h.parse_eq
  obtain ⟨o, f, ho, -⟩ := h'.check_eq
  rw [hr] at ho
  contradiction

theorem EndsRefused.not_reported (h : s.EndsRefused e) : ¬ s.EndsReported e := by
  intro h'
  obtain ⟨r, hr⟩ := h.parse_eq
  obtain ⟨o, outcome, ho, -⟩ := h'.check_eq
  rw [hr] at ho
  contradiction

theorem EndsCrashed.check_eq (h : s.EndsCrashed e) :
    ∃ o c, CommandLine.parse s.arguments = .ok o ∧ s.check o = .error (.crashed c) := by
  obtain ⟨h, crash⟩ := h
  exact ⟨_, _, h, check_of_crash crash⟩

/-- A run that breaks off ends in no other way. -/
theorem EndsCrashed.not_other (h : s.EndsCrashed e) :
    ¬ s.EndsRefused e ∧ ¬ s.EndsFailed e ∧ ¬ s.EndsReported e := by
  obtain ⟨o, c, ho, hc⟩ := h.check_eq
  refine ⟨fun h' => ?_, fun h' => ?_, fun h' => ?_⟩
  · obtain ⟨r, hr⟩ := h'.parse_eq
    rw [hr] at ho
    contradiction
  · obtain ⟨o', f, ho', hf⟩ := h'.check_eq
    obtain rfl := Except.ok.inj (ho.symm.trans ho')
    exact nomatch Except.error.inj (hc.symm.trans hf)
  · obtain ⟨o', outcome, ho', houtcome⟩ := h'.check_eq
    obtain rfl := Except.ok.inj (ho.symm.trans ho')
    rw [hc] at houtcome
    contradiction

/-- Some way to end fits every run. -/
theorem endsCrashed_or_refused_or_failed_or_reported (s : Surroundings) :
    s.EndsCrashed s.run.ending ∨ s.EndsRefused s.run.ending ∨ s.EndsFailed s.run.ending ∨
      s.EndsReported s.run.ending := by
  cases h : CommandLine.parse s.arguments with
  | error r => exact Or.inr (Or.inl (endsRefused_of_parse h))
  | ok o =>
    rcases s.crash_or_firstFailure_or_prepares o with
      ⟨c, hc⟩ | ⟨f, hf⟩ | ⟨t, p, pods, log, prepares, hp, hl⟩
    · exact Or.inl (endsCrashed_of_crash h hc)
    · exact Or.inr (Or.inr (Or.inl (endsFailed_of_firstFailure h hf)))
    · exact Or.inr (Or.inr (Or.inr (endsReported_of_prepares h prepares hp hl)))

theorem Announced.code_ne_zero {f : Failure} {code : Nat} {line : String}
    (h : Announced f code line) : code ≠ 0 := by
  cases h <;> decide

def BreaksOff (s : Surroundings) : Prop :=
  ∃ o c, CommandLine.parse s.arguments = .ok o ∧ s.settings = .error (.crash c)

/-- What a run can break off at: in the file of variables, a comment that is cut within a character
or a null character in a value to be set; or an index that there is no room for. -/
inductive HasObstacle (s : Surroundings) : Prop
  | comment {file : ByteArray} {c : Crash} (hfile : s.dotEnv = some file)
      (h : (DotEnv.Entries.ofFile file).stop = .crashed c)
  | null {file : ByteArray} (hfile : s.dotEnv = some file)
      (h : DotEnv.HasNull s.environment
        (DotEnv.bindings s.environment (DotEnv.Entries.ofFile file).entries))
  | index {v : String × String} (hv : v ∈ s.fullEnvironment)
      (h : ¬ Settings.Fits s.machine.room v)

theorem hasObstacle_of_loadVariables {c : Crash} (h : s.loadVariables.2 = .crashed c) :
    s.HasObstacle := by
  cases hfile : s.dotEnv with
  | none =>
    rw [loadVariables, hfile] at h
    contradiction
  | some file =>
    rw [loadVariables_of_dotEnv hfile, DotEnv.load_eq_loadEntries] at h
    dsimp only at h
    split at h
    · exact .comment hfile h
    · exact .null hfile (DotEnv.hasNull_of_crashed h)

theorem BreaksOff.hasObstacle (h : s.BreaksOff) : s.HasObstacle := by
  obtain ⟨-, c, -, hc⟩ := h
  by_cases hload : ∃ c, s.loadVariables.2 = .crashed c
  · exact hasObstacle_of_loadVariables hload.choose_spec
  · rw [settings_of_not_crash (not_exists.mp hload)] at hc
    by_contra hnone
    have hfits : ∀ v ∈ s.fullEnvironment, Settings.Fits s.machine.room v :=
      fun v hv => by_contra fun h => hnone (.index hv h)
    exact Settings.not_crash (Settings.exists_treeOf_of_fits hfits) c hc

theorem BreaksOff.endsCrashed (h : s.BreaksOff) : s.EndsCrashed s.run.ending := by
  obtain ⟨o, c, ho, hc⟩ := h
  exact endsCrashed_of_crash ho hc

theorem EndsCrashed.breaksOff (h : s.EndsCrashed e) : s.BreaksOff := by
  obtain ⟨h, crash⟩ := h
  exact ⟨_, _, h, crash⟩

/-- The status of success means that help or the version is asked for, or that both files are read
and hold the same identifiers. -/
theorem parse_or_prepares_of_exitCode (hcode : s.run.ending.exitCode = 0) :
    (∃ full, CommandLine.parse s.arguments = .error (.help full)) ∨
      CommandLine.parse s.arguments = .error .version ∨
      ∃ o t p pods log, CommandLine.parse s.arguments = .ok o ∧ s.Prepares o t p ∧
        s.files.Holds o.podsFile pods ∧ s.files.Holds o.logFile log ∧
        p.identifierSet pods = p.identifierSet log := by
  rcases s.endsCrashed_or_refused_or_failed_or_reported with h | h | h | h
  · obtain ⟨-, -, code⟩ := h
    exact absurd (code.symm.trans hcode) (Crash.exitCode_ne_zero _)
  · cases h with
    | help h => exact Or.inl ⟨_, h⟩
    | version h => exact Or.inr (Or.inl h)
    | usage h code =>
      rw [hcode] at code
      contradiction
  · obtain ⟨-, -, announced⟩ := h
    exact absurd hcode announced.code_ne_zero
  · obtain ⟨h, prepares, hp, hl, -, -, -, -, differ⟩ := h
    refine Or.inr (Or.inr ⟨_, _, _, _, _, h, prepares, hp, hl, ?_⟩)
    by_contra hne
    rw [differ hne] at hcode
    contradiction

/-- A run ends in exactly one of three ways: it is refused, it fails, or it reports. Only a run that
breaks off ends in none of them, with a status of its own. No run ends with the status of success
unless help or the version is asked for, or both files are read and hold the same identifiers. -/
theorem run_trichotomy (s : Surroundings) :
    (¬ s.BreaksOff →
      s.EndsRefused s.run.ending ∧ ¬ s.EndsFailed s.run.ending ∧ ¬ s.EndsReported s.run.ending ∨
      ¬ s.EndsRefused s.run.ending ∧ s.EndsFailed s.run.ending ∧ ¬ s.EndsReported s.run.ending ∨
      ¬ s.EndsRefused s.run.ending ∧ ¬ s.EndsFailed s.run.ending ∧
        s.EndsReported s.run.ending) ∧
    (s.BreaksOff → s.HasObstacle ∧ s.EndsCrashed s.run.ending ∧
      ¬ s.EndsRefused s.run.ending ∧ ¬ s.EndsFailed s.run.ending ∧
        ¬ s.EndsReported s.run.ending) ∧
    (s.run.ending.exitCode = 0 →
      (∃ full, CommandLine.parse s.arguments = .error (.help full)) ∨
      CommandLine.parse s.arguments = .error .version ∨
      ∃ o t p pods log, CommandLine.parse s.arguments = .ok o ∧ s.Prepares o t p ∧
        s.files.Holds o.podsFile pods ∧ s.files.Holds o.logFile log ∧
        p.identifierSet pods = p.identifierSet log) := by
  refine ⟨fun hbreaks => ?_, fun hbreaks => ?_, parse_or_prepares_of_exitCode⟩
  · rcases s.endsCrashed_or_refused_or_failed_or_reported with h | h | h | h
    · exact absurd h.breaksOff hbreaks
    · exact Or.inl ⟨h, h.not_failed, h.not_reported⟩
    · exact Or.inr (Or.inl ⟨fun h' => h'.not_failed h, h, h.not_reported⟩)
    · exact Or.inr (Or.inr ⟨fun h' => h'.not_reported h, fun h' => h'.not_reported h, h⟩)
  · exact ⟨hbreaks.hasObstacle, hbreaks.endsCrashed, hbreaks.endsCrashed.not_other⟩

/-- A null character in the file of variables ends a run in none of the three ways. -/
theorem run_of_null_in_file :
    let s : Surroundings :=
      { arguments := ["pods.txt", "log.txt"].map String.toUTF8, environment := []
        dotEnv := some "A=\x00\n".toUTF8, files := fun _ => .ok "reviews-v1-abc\n".toUTF8
        now := ⟨0, 0⟩, terminal := false }
    s.run.ending.exitCode = 101 ∧ s.run.ending.output = "" ∧ s.run.ending.errorText? = none ∧
      ¬ s.EndsRefused s.run.ending ∧ ¬ s.EndsFailed s.run.ending ∧
      ¬ s.EndsReported s.run.ending := by
  intro s
  have hload : s.loadVariables.2 = .crashed .panic := by decide +kernel
  have hparse : CommandLine.parse s.arguments =
      .ok { podsFile := "pods.txt".toUTF8, logFile := "log.txt".toUTF8 } := rfl
  have hsettings := settings_of_crash hload
  rw [run_of_crash hparse hsettings]
  exact ⟨rfl, rfl, rfl, (EndsCrashed.intro hparse hsettings rfl rfl rfl).not_other⟩

end Surroundings

end RollCall
