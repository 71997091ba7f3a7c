import RollCall.Proofs.Report.Lines
import RollCall.Proofs.Report.Variants
import RollCall.Proofs.Session
import RollCall.Proofs.Settings.Order

/-! How a run presents its outcome makes no difference to the outcome. Runs that ask for the same
check end alike, and what they write differs only in what the format, counts and colours change. -/
namespace RollCall

namespace Environment

/-- The variable has a say in the use of colours, and in nothing else. -/
def isColorVariable (name : String) : Bool :=
  (Settings.Name.ofVariable? name).any (·.root = "color") ||
    ["CLICOLOR_FORCE", "CLICOLOR", "NO_COLOR"].contains name

def withoutColors (env : Environment) : Environment := env.filter fun v => !isColorVariable v.1

variable {env env' : Environment} {t t' : Settings}

theorem not_names_of_isColorVariable {name key : String} (h : isColorVariable name = true)
    (hkey : key ≠ "color") : ¬ Settings.Names name key := by
  rintro ⟨path, hpath, rfl⟩
  unfold isColorVariable at h
  rcases (Bool.or_eq_true _ _).mp h with h | h
  · rw [hpath] at h
    exact hkey (of_decide_eq_true h)
  · have hnone : ∀ n ∈ ["CLICOLOR_FORCE", "CLICOLOR", "NO_COLOR"],
        Settings.Name.ofVariable? n = none := by decide
    rw [hnone name (List.contains_iff_mem.mp h)] at hpath
    contradiction

/-- Variables for colours change no other setting. -/
theorem eq_of_withoutColors {m : Machine} (h : env.withoutColors = env'.withoutColors)
    (ht : Settings.ofEnvironment m env = .ok t) (ht' : Settings.ofEnvironment m env' = .ok t') :
    t' = { t with color := t'.color } := by
  have hsame (k : Settings.Field) (hk : k.key ≠ "color") : k.Same t' t := by
    have hkeep (v : String × String) (hv : (!isColorVariable v.1) = false) :
        ¬ Settings.Names v.1 k.key :=
      not_names_of_isColorVariable (by simpa using hv) hk
    have hpart : Settings.part env k.key = Settings.part env' k.key := by
      rw [← Settings.part_filter hkeep env, ← Settings.part_filter hkeep env']
      exact congrArg (fun env => Settings.part env k.key) h
    obtain ⟨tree, htree, hreads⟩ := (Settings.ofEnvironment_eq_ok_iff.mp ht).2 k
    obtain ⟨tree', htree', hreads'⟩ := (Settings.ofEnvironment_eq_ok_iff.mp ht').2 k
    rw [Settings.treeOf_congr hpart, htree'] at htree
    obtain rfl := Except.ok.inj htree
    exact hreads'.same hreads
  refine Settings.Field.eq_of_same fun k => ?_
  cases k with
  | color => rfl
  | preset => exact hsame .preset (by decide)
  | pattern => exact hsame .pattern (by decide)
  | showCounts => exact hsame .showCounts (by decide)
  | format => exact hsame .format (by decide)

end Environment

structure Options.SameCheck (o o' : Options) : Prop where
  podsFile : o.podsFile = o'.podsFile
  logFile : o.logFile = o'.logFile
  preset : o.preset = o'.preset
  pattern : o.pattern = o'.pattern

namespace Options.SameCheck

variable {o o' : Options} {t t' : Settings}

theorem ownPattern_eq (h : o.SameCheck o') (ht : t.pattern = t'.pattern) :
    o.ownPattern t = o'.ownPattern t' := by
  rw [ownPattern, ownPattern, h.pattern, ht]

theorem patternSource_eq (h : o.SameCheck o') (ht : t.pattern = t'.pattern)
    (hpreset : t.preset = t'.preset) : o.patternSource t = o'.patternSource t' := by
  rw [patternSource, patternSource, h.ownPattern_eq ht, h.preset, hpreset]

end Options.SameCheck

namespace Surroundings

/-- Two runs with the same files ask for the same check, and their environments differ in variables
for colours at most. -/
inductive SameCheck (s s' : Surroundings) : Prop
  | intro {o o' : Options} (parse : CommandLine.parse s.arguments = .ok o)
      (parse' : CommandLine.parse s'.arguments = .ok o') (options : o.SameCheck o')
      (files : s.files = s'.files)
      (environment : s.fullEnvironment.withoutColors = s'.fullEnvironment.withoutColors)

/-- The run writes a report in this format; `counts` and `color` tell whether counts are taken and
whether text is coloured. -/
inductive Prints (s : Surroundings) (format : OutputFormat) (counts color : Bool) : Prop
  | intro {o : Options} {t : Settings} {text : String} {success : Bool}
      (reported : s.run.ending = .reported text success)
      (parse : CommandLine.parse s.arguments = .ok o)
      (settings : s.settings = .ok t)
      (format_eq : o.outputFormat t = format) (counts_eq : (o.counts || t.showCounts) = counts)
      (color_eq : (o.useColor t && s.fullEnvironment.allowsColor s.terminal) = color)

def expected (s : Surroundings) : Set String :=
  {x | ∃ o t p pods, CommandLine.parse s.arguments = .ok o ∧ s.Prepares o t p ∧
    s.files.Holds o.podsFile pods ∧ x ∈ p.identifierSet pods}

/-- The order in which tables are visited makes no difference between two runs: the second one has
the settings that it would have on the machine of the first. -/
def LoadsAlike (s s' : Surroundings) : Prop :=
  s'.settings = { s' with machine := s.machine }.settings

variable {s s' : Surroundings} {o o' : Options} {t t' : Settings} {p : Pattern} {f : Failure}

section Loading

theorem loadsAlike_of_machine (h : s.machine = s'.machine) : s.LoadsAlike s' := by
  rw [LoadsAlike, h]

theorem settings_eq (hload : s.loadVariables = s'.loadVariables) :
    s.settings = { s' with machine := s.machine }.settings := by
  unfold settings fullEnvironment
  rw [hload]
  rfl

theorem ofEnvironment_of_settings (h : s.settings = .ok t) :
    Settings.ofEnvironment s.machine s.fullEnvironment = .ok t := by
  rw [settings] at h
  split at h
  · contradiction
  · exact h
  · exact h

variable (hroom : s.machine.room = s'.machine.room)
  (hplain : Settings.Plain s.machine.room s'.fullEnvironment)
include hroom hplain

/-- On another machine the settings are the same, or one more of those that are invalid is
complained of. -/
theorem loadsAlike_or : s.LoadsAlike s' ∨ ∃ j k e e', j ≠ k ∧
    Settings.Fails s.machine s'.fullEnvironment j e ∧
    Settings.Fails s.machine s'.fullEnvironment k e' ∧
    { s' with machine := s.machine }.settings = .error (.invalid e) ∧
    s'.settings = .error (.invalid e') := by
  by_cases hcrash : ∃ c, s'.loadVariables.2 = .crashed c
  · obtain ⟨c, hc⟩ := hcrash
    have hcrash : { s' with machine := s.machine }.settings = .error (.crash c) :=
      settings_of_crash hc
    exact Or.inl ((settings_of_crash hc).trans hcrash.symm)
  · have hno := not_exists.mp hcrash
    have hsettings : { s' with machine := s.machine }.settings =
      Settings.ofEnvironment s.machine s'.fullEnvironment := settings_of_not_crash hno
    rw [LoadsAlike, hsettings, settings_of_not_crash hno]
    rcases hplain.ofEnvironment_eq_or hroom with heq | h
    · exact Or.inl heq.symm
    · exact Or.inr h

/-- With at most one invalid setting the order makes no difference. -/
theorem loadsAlike_of_plain (hone : ∀ j k e e', Settings.Fails s.machine s'.fullEnvironment j e →
    Settings.Fails s.machine s'.fullEnvironment k e' → j = k) : s.LoadsAlike s' := by
  rcases loadsAlike_or hroom hplain with h | ⟨j, k, e, e', hne, hj, hk, -⟩
  · exact h
  · exact absurd (hone j k e e' hj hk) hne

end Loading

section Ending

/-- Both runs have one exit status and one error text, or none. -/
structure SameOutcome (s s' : Surroundings) : Prop where
  exitCode : s.run.ending.exitCode = s'.run.ending.exitCode
  errorText : s.run.ending.errorText? = s'.run.ending.errorText?

/-- Both runs complain of invalid settings, each of another one, with the same exit status. -/
inductive ComplainApart (s s' : Surroundings) : Prop
  | intro {j k : Settings.Field} {e e' : Settings.Invalid} (ne : j ≠ k)
      (fails : Settings.Fails s.machine s'.fullEnvironment j e)
      (fails' : Settings.Fails s.machine s'.fullEnvironment k e')
      (run : s.run.ending = .failed (.settings e.message))
      (run' : s'.run.ending = .failed (.settings e'.message))
      (exitCode : s.run.ending.exitCode = s'.run.ending.exitCode)

theorem Prepares.sameCheck (h : s.Prepares o t p) (ho : o.SameCheck o')
    (ht' : s'.settings = .ok t') (hpattern : t.pattern = t'.pattern)
    (hpreset : t.preset = t'.preset) : s'.Prepares o' t' p where
  settings := ht'
  notEmpty := ho.ownPattern_eq hpattern ▸ h.notEmpty
  pattern := ho.patternSource_eq hpattern hpreset ▸ h.pattern

theorem FirstFailure.sameCheck (h : s.FirstFailure o f) (ho : o.SameCheck o')
    (hfiles : s.files = s'.files) (hsettings : s.settings = s'.settings) :
    s'.FirstFailure o' f := by
  cases h with
  | settings h => exact .settings (hsettings ▸ h)
  | emptyPattern ht h => exact .emptyPattern (hsettings ▸ ht) (ho.ownPattern_eq rfl ▸ h)
  | pattern ht hne h =>
    exact .pattern (hsettings ▸ ht) (ho.ownPattern_eq rfl ▸ hne) (ho.patternSource_eq rfl rfl ▸ h)
  | podsFile hp h =>
    rw [ho.podsFile, hfiles] at h
    rw [ho.podsFile]
    exact .podsFile (hp.sameCheck ho (hsettings ▸ hp.settings) rfl rfl) h
  | logFile hp hpods h =>
    rw [ho.podsFile, hfiles] at hpods
    rw [ho.logFile, hfiles] at h
    rw [ho.logFile]
    exact .logFile (hp.sameCheck ho (hsettings ▸ hp.settings) rfl rfl) hpods h

theorem run_of_firstFailure (h : CommandLine.parse s.arguments = .ok o)
    (first : s.FirstFailure o f) : s.run = ⟨.failed f, false⟩ := by
  simp only [run, h, check_of_firstFailure first]

theorem SameCheck.sameOutcome (h : s.SameCheck s') (hsettings : s.settings = s'.settings) :
    s.SameOutcome s' := by
  obtain @⟨o, o', hparse, hparse', ho, hfiles, -⟩ := h
  rcases s.crash_or_firstFailure_or_prepares o with
    ⟨c, hc⟩ | ⟨f, hf⟩ | ⟨t, p, pods, log, prepares, hp, hl⟩
  · constructor <;> rw [run_of_crash hparse hc, run_of_crash hparse' (hsettings ▸ hc)]
  · have hrun := run_of_firstFailure hparse hf
    have hrun' := run_of_firstFailure hparse' (hf.sameCheck ho hfiles hsettings)
    constructor <;> rw [hrun, hrun']
  · have prepares' : s'.Prepares o' t p :=
      prepares.sameCheck ho (hsettings ▸ prepares.settings) rfl rfl
    have hrun := run_of_prepares hparse prepares hp hl
    have hrun' := run_of_prepares hparse' prepares' (ho.podsFile ▸ hfiles ▸ hp)
      (ho.logFile ▸ hfiles ▸ hl)
    constructor <;> rw [hrun, hrun'] <;> rfl

theorem SameCheck.sameOutcome_or (h : s.SameCheck s') (hload : s.loadVariables = s'.loadVariables)
    (hroom : s.machine.room = s'.machine.room)
    (hplain : Settings.Plain s.machine.room s'.fullEnvironment) :
    s.SameOutcome s' ∨ s.ComplainApart s' := by
  have hsettings := settings_eq hload
  rcases loadsAlike_or hroom hplain with halike | ⟨j, k, e, e', hne, hj, hk, he, he'⟩
  · exact Or.inl (h.sameOutcome (hsettings.trans halike.symm))
  · obtain @⟨o, o', hparse, hparse', -⟩ := h
    have hrun := run_of_firstFailure hparse (.settings (hsettings.trans he))
    have hrun' := run_of_firstFailure hparse' (.settings he')
    exact Or.inr (.intro hne hj hk (by rw [hrun]) (by rw [hrun']) (by rw [hrun, hrun']; rfl))

end Ending

section Output

variable {format format' : OutputFormat} {counts counts' color color' : Bool} {pods log : String}

theorem expected_eq (h : CommandLine.parse s.arguments = .ok o) (prepares : s.Prepares o t p)
    (hp : s.files.Holds o.podsFile pods) : s.expected = p.identifierSet pods := by
  ext x
  constructor
  · rintro ⟨o', t', p', pods', h', prepares', hp', hx⟩
    obtain rfl := Except.ok.inj (h.symm.trans h')
    obtain rfl := Except.ok.inj (prepares.settings.symm.trans prepares'.settings)
    obtain rfl := Except.ok.inj (prepares.pattern.symm.trans prepares'.pattern)
    have htext : pods = pods' := String.toByteArray_inj.mp (Except.ok.inj (hp.symm.trans hp'))
    rwa [htext]
  · exact fun hx => ⟨o, t, p, pods, h, prepares, hp, hx⟩

/-- A run that prints has read both files. -/
theorem Prints.exists_prepares (h : s.Prints format counts color) :
    ∃ o t p pods log, CommandLine.parse s.arguments = .ok o ∧ s.Prepares o t p ∧
      s.files.Holds o.podsFile pods ∧ s.files.Holds o.logFile log := by
  obtain @⟨o, t, text, success, reported, parse, -⟩ := h
  rcases s.crash_or_firstFailure_or_prepares o with
    ⟨c, hc⟩ | ⟨f, hf⟩ | ⟨t, p, pods, log, prepares, hp, hl⟩
  · rw [run_of_crash parse hc] at reported
    contradiction
  · rw [run_of_firstFailure parse hf] at reported
    contradiction
  · exact ⟨o, t, p, pods, log, parse, prepares, hp, hl⟩

/-- What is written, told by the texts of the files and by how it is presented. -/
theorem Prints.output_eq (h : s.Prints format counts color)
    (parse : CommandLine.parse s.arguments = .ok o) (prepares : s.Prepares o t p)
    (hp : s.files.Holds o.podsFile pods) (hl : s.files.Holds o.logFile log) :
    s.run.ending.output = ((⟨o.podsFile, o.logFile, p, counts⟩ : CheckOptions).result s.now pods
      log).report.render format color := by
  obtain @⟨o', t', text, success, -, parse', settings, rfl, rfl, rfl⟩ := h
  obtain rfl := Except.ok.inj (parse.symm.trans parse')
  obtain rfl := Except.ok.inj (prepares.settings.symm.trans settings)
  rw [run_of_prepares parse prepares hp hl]
  rfl

/-- Two runs that ask for the same check write reports of one comparison. -/
theorem SameCheck.exists_outputs (h : s.SameCheck s') (halike : s.LoadsAlike s')
    (hs : s.Prints format counts color) (hs' : s'.Prints format' counts' color') :
    ∃ (c : CheckOptions) (pods log : String), s.expected = c.pattern.identifierSet pods ∧
      s.run.ending.output =
        ({ c with showCounts := counts }.result s.now pods log).report.render format color ∧
      s'.run.ending.output =
        ({ c with showCounts := counts' }.result s'.now pods log).report.render format' color' := by
  obtain @⟨o, o', parse, parse', ho, hfiles, henv⟩ := h
  obtain ⟨o₁, t, p, pods, log, parse₁, prepares, hp, hl⟩ := hs.exists_prepares
  obtain ⟨o₂, t', p', pods', log', parse₂, prepares₂, -⟩ := hs'.exists_prepares
  obtain rfl := Except.ok.inj (parse.symm.trans parse₁)
  obtain rfl := Except.ok.inj (parse'.symm.trans parse₂)
  have ht := Environment.eq_of_withoutColors henv (ofEnvironment_of_settings prepares.settings)
    (ofEnvironment_of_settings (halike.symm.trans prepares₂.settings))
  have prepares' : s'.Prepares o' t' p :=
    prepares.sameCheck ho prepares₂.settings (by rw [ht]) (by rw [ht])
  have houtput' := hs'.output_eq parse' prepares' (ho.podsFile ▸ hfiles ▸ hp)
    (ho.logFile ▸ hfiles ▸ hl)
  rw [← ho.podsFile, ← ho.logFile] at houtput'
  exact ⟨⟨o.podsFile, o.logFile, p, counts⟩, pods, log, expected_eq parse prepares hp,
    hs.output_eq parse prepares hp hl, houtput'⟩

/-- Two documents differ in the time at most, if both have counts or none. -/
theorem SameCheck.exists_before_time (h : s.SameCheck s') (halike : s.LoadsAlike s')
    (hs : s.Prints .json counts color) (hs' : s'.Prints .json counts color') :
    ∃ before : String, s.run.ending.output = before ++ Report.timeMember s.now ∧
      s'.run.ending.output = before ++ Report.timeMember s'.now := by
  obtain ⟨c, pods, log, -, houtput, houtput'⟩ := h.exists_outputs halike hs hs'
  obtain ⟨before, hbefore⟩ :=
    Report.exists_render_json ({ c with showCounts := counts }.result s.now pods log).report
  exact ⟨before, houtput.trans (hbefore s.now color), houtput'.trans (hbefore s'.now color')⟩

/-- In lines of text, counts come after all else. -/
theorem SameCheck.exists_tally (h : s.SameCheck s') (halike : s.LoadsAlike s')
    (hs : s.Prints .text false color) (hs' : s'.Prints .text true color) :
    ∃ tally : Tally, ListsSet (tally.map Prod.fst) s.expected ∧
      s'.run.ending.output =
        s.run.ending.output ++ String.ofList (Report.countBlock color tally) := by
  obtain ⟨c, pods, log, hexpected, houtput, houtput'⟩ := h.exists_outputs halike hs hs'
  refine ⟨Tally.count (c.pattern.scan pods).unique (c.pattern.scan log).raw, ?_, ?_⟩
  · rw [Tally.map_fst_count, hexpected]
    exact Pattern.listsSet_unique pods
  · rw [houtput', houtput]
    exact Report.writeText_of_counted rfl color

/-- Colours are nothing but their sequences, as long as no identifier of the pods file holds an
escape character. -/
theorem SameCheck.stripColors_output (h : s.SameCheck s') (halike : s.LoadsAlike s')
    (hs : s.Prints .text counts true) (hs' : s'.Prints .text counts false)
    (hescape : ∀ x ∈ s.expected, '\x1b' ∉ x.toList) :
    stripColors s.run.ending.output.toList = s'.run.ending.output.toList := by
  obtain ⟨c, pods, log, hexpected, houtput, houtput'⟩ := h.exists_outputs halike hs hs'
  rw [houtput, houtput']
  refine Report.stripColors_writeText (fun tally htally name hname => ?_) true
  change (if counts then some (Tally.count _ _) else none) = some tally at htally
  split at htally
  · rw [← Option.some.inj htally, Tally.map_fst_count] at hname
    exact hescape name (hexpected ▸ Pattern.mem_unique_scan.mp hname)
  · contradiction

/-- Presentation never changes the outcome. Two runs that ask for the same check and load their
settings alike have the same exit status and the same error text in the same environment. Two
documents with counts in both or in neither differ in the time at most, whatever variables and
words for colours there are. In lines of text, counts come after all else, and colours are nothing
but their sequences, as long as no identifier of the pods file holds an escape character.

Settings are loaded alike in one order. In different orders they are if each variable has a root of
its own and room for its indices, and at most one setting is invalid; if several are, the runs may
still complain of different ones. -/
theorem run_of_sameCheck (h : s.SameCheck s') :
    (s.LoadsAlike s' →
      (s.loadVariables = s'.loadVariables → s.SameOutcome s') ∧
      (∀ counts color color', s.Prints .json counts color → s'.Prints .json counts color' →
        ∃ before : String, s.run.ending.output = before ++ Report.timeMember s.now ∧
          s'.run.ending.output = before ++ Report.timeMember s'.now) ∧
      (∀ color, s.Prints .text false color → s'.Prints .text true color →
        ∃ tally : Tally, ListsSet (tally.map Prod.fst) s.expected ∧
          s'.run.ending.output =
            s.run.ending.output ++ String.ofList (Report.countBlock color tally)) ∧
      (∀ counts, s.Prints .text counts true → s'.Prints .text counts false →
        (∀ x ∈ s.expected, '\x1b' ∉ x.toList) →
        stripColors s.run.ending.output.toList = s'.run.ending.output.toList)) ∧
    (s.machine = s'.machine → s.LoadsAlike s') ∧
    (s.machine.room = s'.machine.room → Settings.Plain s.machine.room s'.fullEnvironment →
      ((∀ j k e e', Settings.Fails s.machine s'.fullEnvironment j e →
        Settings.Fails s.machine s'.fullEnvironment k e' → j = k) → s.LoadsAlike s') ∧
      (s.loadVariables = s'.loadVariables → s.SameOutcome s' ∨ s.ComplainApart s')) := by
  refine ⟨fun halike => ⟨fun hload => ?_, fun _ _ _ => h.exists_before_time halike,
    fun _ => h.exists_tally halike, fun _ => h.stripColors_output halike⟩,
    loadsAlike_of_machine, fun hroom hplain => ⟨loadsAlike_of_plain hroom hplain, fun hload =>
      h.sameOutcome_or hload hroom hplain⟩⟩
  exact h.sameOutcome ((settings_eq hload).trans halike.symm)

/-- A run that looks for two letters in two files, with some words about how to show what it finds
out. One of the letters is missing in the log. -/
def lettersShown (m : Machine) (words : List String) (env : Environment) : Surroundings where
  arguments := (["pods.txt", "log.txt", "--pattern", "[ab]"] ++ words).map String.toUTF8
  environment := env
  dotEnv := none
  files path := .ok (if path.size = 8 then "ab".toUTF8 else "a".toUTF8)
  now := ⟨0, 0⟩
  terminal := false
  machine := m

def lettersOptions (counts noColor : Bool) (format : Option OutputFormat) : Options where
  podsFile := "pods.txt".toUTF8
  logFile := "log.txt".toUTF8
  pattern := some "[ab]"
  counts := counts
  noColor := noColor
  format := format

variable {m : Machine} {words : List String} {env : Environment} {noColor : Bool}
  {asked : Option OutputFormat}

theorem holds_lettersShown : (lettersShown m words env).files.Holds "pods.txt".toUTF8 "ab" ∧
    (lettersShown m words env).files.Holds "log.txt".toUTF8 "a" := ⟨rfl, rfl⟩

theorem prepares_lettersShown (hp : Pattern.ofSource "[ab]" = .ok p)
    (ht : Settings.ofEnvironment m env = .ok t) :
    (lettersShown m words env).Prepares (lettersOptions counts noColor asked) t p where
  settings := ht
  notEmpty := by
    show some "[ab]" ≠ some ""
    decide
  pattern := hp

theorem prints_lettersShown (hp : Pattern.ofSource "[ab]" = .ok p)
    (parse : CommandLine.parse (lettersShown m words env).arguments =
      .ok (lettersOptions counts noColor asked))
    (ht : Settings.ofEnvironment m env = .ok t) (hformat : asked.getD t.format = format)
    (hcounts : (counts || t.showCounts) = counts')
    (hcolor : ((!noColor && t.color) && env.allowsColor false) = color) :
    (lettersShown m words env).Prints format counts' color := by
  have hrun := run_of_prepares parse (prepares_lettersShown hp ht) holds_lettersShown.1
    holds_lettersShown.2
  exact .intro (congrArg Outcome.ending hrun) parse ht hformat hcounts hcolor

theorem not_mem_of_expected_lettersShown (hp : Pattern.ofSource "[ab]" = .ok p)
    (parse : CommandLine.parse (lettersShown m words env).arguments =
      .ok (lettersOptions counts noColor asked)) (ht : Settings.ofEnvironment m env = .ok t) :
    ∀ x ∈ (lettersShown m words env).expected, '\x1b' ∉ x.toList := by
  rw [expected_eq parse (prepares_lettersShown hp ht) holds_lettersShown.1]
  rintro x ⟨line, hline, hx⟩ hescape
  have hlines : Lines.ofText "ab" = ["ab"] := rfl
  rw [hlines] at hline
  obtain rfl := List.mem_singleton.mp hline
  exact absurd (Pattern.mem_of_mem_identifiers hx hescape) (by decide)

/-- A text with counts and forced colours, seen in another order without colours and in the same one
without counts; and two documents whose variables for colours differ. -/
theorem run_of_sameCheck_letters :
    let forced : Environment := [("CLICOLOR_FORCE", "1")]
    let m : Machine := { settingOrder := { first := ["color", "format"] } }
    let counted := lettersShown {} ["--counts"] forced
    let plain := lettersShown m ["--counts", "--no-color"] forced
    let bare := lettersShown {} [] forced
    let document := lettersShown {} ["--format", "json"] forced
    let document' := lettersShown {} ["--format", "json"] [("RECONCILE_COLOR", "no")]
    counted.SameOutcome plain ∧
      stripColors counted.run.ending.output.toList = plain.run.ending.output.toList ∧
      (∃ tally : Tally, counted.run.ending.output =
        bare.run.ending.output ++ String.ofList (Report.countBlock true tally)) ∧
      ∃ before : String, document.run.ending.output = before ++ Report.timeMember ⟨0, 0⟩ ∧
        document'.run.ending.output = before ++ Report.timeMember ⟨0, 0⟩ := by
  intro forced m counted plain bare document document'
  obtain ⟨p, hp⟩ := Pattern.exists_ofSource_letters
  have parse : CommandLine.parse counted.arguments = .ok (lettersOptions true false none) := rfl
  have parse' : CommandLine.parse plain.arguments = .ok (lettersOptions true true none) := rfl
  have parseBare : CommandLine.parse bare.arguments = .ok (lettersOptions false false none) := rfl
  have parseJson : CommandLine.parse document.arguments =
      .ok (lettersOptions false false (some .json)) := rfl
  have parseJson' : CommandLine.parse document'.arguments =
      .ok (lettersOptions false false (some .json)) := rfl
  have hplain : Settings.Plain counted.machine.room plain.fullEnvironment :=
    ⟨by unfold Settings.DistinctRoots; decide +kernel, by decide +kernel⟩
  have hfails (k : Settings.Field) (e : Settings.Invalid) :
      ¬ Settings.Fails counted.machine plain.fullEnvironment k e := by
    have hload : Settings.ofEnvironment counted.machine
        (Settings.part plain.fullEnvironment k.key) = .ok {} := by
      cases k <;> decide +kernel
    intro hfails
    rw [Settings.Fails, hload] at hfails
    contradiction
  obtain ⟨halike, -, horder⟩ := run_of_sameCheck (.intro parse parse' ⟨rfl, rfl, rfl, rfl⟩ rfl rfl)
  obtain ⟨hcode, -, -, hstrip⟩ :=
    halike ((horder rfl hplain).1 fun j _ e _ hj => absurd hj (hfails j e))
  obtain ⟨hsame, hsameMachine, -⟩ :=
    run_of_sameCheck (.intro parseBare parse ⟨rfl, rfl, rfl, rfl⟩ rfl rfl)
  obtain ⟨-, -, hcounts, -⟩ := hsame (hsameMachine rfl)
  obtain ⟨hsame, hsameMachine, -⟩ :=
    run_of_sameCheck (.intro parseJson parseJson' ⟨rfl, rfl, rfl, rfl⟩ rfl rfl)
  obtain ⟨-, hjson, -⟩ := hsame (hsameMachine rfl)
  refine ⟨hcode rfl, ?_, ?_, ?_⟩
  · exact hstrip true (prints_lettersShown hp parse rfl rfl rfl rfl)
      (prints_lettersShown hp parse' rfl rfl rfl rfl)
      (not_mem_of_expected_lettersShown hp parse rfl)
  · obtain ⟨tally, -, houtput⟩ := hcounts true (prints_lettersShown hp parseBare rfl rfl rfl rfl)
      (prints_lettersShown hp parse rfl rfl rfl rfl)
    exact ⟨tally, houtput⟩
  · exact hjson false true false (prints_lettersShown hp parseJson rfl rfl rfl rfl)
      (prints_lettersShown hp parseJson' rfl rfl rfl rfl)

/-- In one order the preset is taken from its variable, in another one from a variable for a part of
it, which no preset has. -/
theorem exitCode_of_preset_and_part :
    let s (o : VisitOrder) : Surroundings :=
      { arguments := ["pods.txt", "log.txt"].map String.toUTF8
        environment := [("RECONCILE_PRESET", "version"), ("RECONCILE_PRESET.X", "1")]
        dotEnv := none, files := fun _ => .ok "reviews-v1".toUTF8, now := ⟨0, 0⟩
        terminal := false, machine := { variableOrder := o } }
    (s { first := ["preset"] }).run.ending.exitCode = 2 ∧
      (s { first := ["preset.x"] }).run.ending.exitCode = 0 := by
  intro s
  have parse (o : VisitOrder) : CommandLine.parse (s o).arguments =
      .ok { podsFile := "pods.txt".toUTF8, logFile := "log.txt".toUTF8 } := rfl
  constructor
  · have hload : (s { first := ["preset"] }).settings =
        .error (.invalid (.unknownChoice "PatternPreset" "x")) := by decide +kernel
    rw [run_of_firstFailure (parse _) (.settings hload)]
    rfl
  · have hload : (s { first := ["preset.x"] }).settings = .ok { preset := .version } := by
      decide +kernel
    obtain ⟨p, hp⟩ := Preset.version.ofSource_isOk
    rw [run_of_prepares (parse _) ⟨hload, by decide, hp⟩ rfl rfl]
    exact if_pos (CheckOptions.success_result_iff.mpr rfl)

end Output

end Surroundings

end RollCall
