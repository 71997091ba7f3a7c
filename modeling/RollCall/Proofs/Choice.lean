import Mathlib
import RollCall.Session
import RollCall.Proofs.Except

/-! Which pattern a run uses. A pattern on the command line goes before everything in the settings;
a preset on the command line goes before a preset in the settings only. -/
namespace RollCall

namespace Pattern

theorem source_of_ofSource {source : String} {p : Pattern} (h : ofSource source = .ok p) :
    p.source = source := by
  unfold ofSource at h
  cases he : Regex.parse source.toList with
  | error e =>
    rw [he] at h
    contradiction
  | ok e =>
    rw [he] at h
    change ofExpr source e = .ok p at h
    unfold ofExpr at h
    split at h
    · contradiction
    · rw [← Except.ok.inj h]

def ofOwn (own : String) : Except Failure Pattern :=
  if own = "" then .error (.invalidArguments "pattern must not be empty")
  else (ofSource own).mapError .pattern

theorem ofOwn_of_ne {own : String} (h : own ≠ "") :
    ofOwn own = (ofSource own).mapError .pattern := if_neg h

theorem source_of_ofOwn {own : String} {p : Pattern} (h : ofOwn own = .ok p) : p.source = own := by
  unfold ofOwn at h
  split at h
  · contradiction
  · cases hp : ofSource own with
    | error e =>
      rw [hp] at h
      contradiction
    | ok q =>
      rw [hp] at h
      exact Except.ok.inj h ▸ source_of_ofSource hp

end Pattern

/-- The patterns of the presets are well-formed and small. -/
theorem Preset.ofSource_isOk (preset : Preset) : ∃ p, Pattern.ofSource preset.source = .ok p := by
  cases preset with
  | podName => exact ok_of_toBool (by cbv)
  | version => exact ok_of_toBool (by cbv)

theorem Preset.source_ne_empty (preset : Preset) : preset.source ≠ "" := by
  cases preset <;> decide

namespace Settings

/-- No text but `source` stands for the pattern in the settings. -/
def Permits (t : Settings) (source : String) : Prop := ∀ own, t.pattern = some own → own = source

/-- The pattern in the settings fails with `f`. -/
def FailsAs (t : Settings) (f : Failure) : Prop :=
  ∃ own, t.pattern = some own ∧ Pattern.ofOwn own = .error f

end Settings

namespace Options

def ownPattern (o : Options) (t : Settings) : Option String := o.pattern <|> t.pattern

def patternSource (o : Options) (t : Settings) : String :=
  (o.ownPattern t).getD (o.preset.getD t.preset).source

/-- The text of the pattern that the command line asks for: one's own before that of a preset. -/
def askedSource? (o : Options) : Option String := o.pattern <|> o.preset.map Preset.source

/-- The settings make no difference to the pattern: under both of them the same failure comes out,
or the pattern of `source`. -/
def Overrides (o : Options) (source : String) (t₁ t₂ : Settings) : Prop :=
  (∃ f, (o.checkOptions t₁).map (·.pattern) = .error f ∧
    (o.checkOptions t₂).map (·.pattern) = .error f) ∨
  ∃ p : Pattern, (o.checkOptions t₁).map (·.pattern) = .ok p ∧
    (o.checkOptions t₂).map (·.pattern) = .ok p ∧ p.source = source

variable {o : Options} {t t₁ t₂ : Settings} {preset : Preset} {own source : String}

theorem map_pattern_checkOptions (o : Options) (t : Settings) :
    (o.checkOptions t).map (·.pattern) = o.choosePattern t := by
  unfold checkOptions
  cases o.choosePattern t <;> rfl

theorem choosePattern_of_empty (h : o.ownPattern t = some "") :
    o.choosePattern t = .error (.invalidArguments "pattern must not be empty") := by
  unfold ownPattern at h
  simp only [choosePattern, h, show "".isEmpty = true by decide, if_true]

theorem choosePattern_of_ne (h : o.ownPattern t ≠ some "") :
    o.choosePattern t = (Pattern.ofSource (o.patternSource t)).mapError .pattern := by
  unfold choosePattern patternSource
  cases hown : o.ownPattern t with
  | none =>
    unfold ownPattern at hown
    simp only [hown, Option.getD_none]
  | some own =>
    have hne : own.isEmpty = false := by
      rw [← Bool.not_eq_true, String.isEmpty_iff]
      exact fun e => h (by rw [hown, e])
    unfold ownPattern at hown
    simp only [hown, hne, Option.getD_some, Bool.false_eq_true, if_false]

theorem choosePattern_of_own (h : o.ownPattern t = some own) :
    o.choosePattern t = Pattern.ofOwn own := by
  by_cases hempty : own = ""
  · rw [choosePattern_of_empty (hempty ▸ h), Pattern.ofOwn, if_pos hempty]
  · have hne : o.ownPattern t ≠ some "" := fun e => hempty (Option.some.inj (h.symm.trans e))
    rw [choosePattern_of_ne hne, patternSource, h, Option.getD_some, Pattern.ofOwn_of_ne hempty]

theorem choosePattern_of_preset (h : o.ownPattern t = none) (hpreset : o.preset = some preset) :
    o.choosePattern t = (Pattern.ofSource preset.source).mapError .pattern := by
  have hne : o.ownPattern t ≠ some "" := by
    rw [h]
    exact (Option.some_ne_none "").symm
  rw [choosePattern_of_ne hne, patternSource, h, hpreset, Option.getD_none, Option.getD_some]

/-- Under settings that permit it, a preset on the command line is the one that is used. -/
theorem choosePattern_of_permits (hpattern : o.pattern = none) (hpreset : o.preset = some preset)
    (h : t.Permits preset.source) :
    o.choosePattern t = (Pattern.ofSource preset.source).mapError .pattern := by
  cases hown : t.pattern with
  | none =>
    exact choosePattern_of_preset (by rw [ownPattern, hpattern, hown]; rfl) hpreset
  | some own =>
    have heq : own = preset.source := h own hown
    have hmake : o.choosePattern t = Pattern.ofOwn own :=
      choosePattern_of_own (by rw [ownPattern, hpattern, hown]; rfl)
    rw [hmake, heq, Pattern.ofOwn_of_ne preset.source_ne_empty]

/-- A pattern in the settings goes before a preset on the command line. -/
theorem choosePattern_of_setting (hpattern : o.pattern = none) (h : t.pattern = some own) :
    o.choosePattern t = Pattern.ofOwn own :=
  choosePattern_of_own (by rw [ownPattern, hpattern, h]; rfl)

theorem overrides_of_choosePattern_eq {x : Except Failure Pattern} (h₁ : o.choosePattern t₁ = x)
    (h₂ : o.choosePattern t₂ = x) (hsource : ∀ p, x = .ok p → p.source = source) :
    o.Overrides source t₁ t₂ := by
  unfold Overrides
  simp only [map_pattern_checkOptions, h₁, h₂]
  cases x with
  | error f => exact Or.inl ⟨f, rfl, rfl⟩
  | ok p => exact Or.inr ⟨p, rfl, rfl, hsource p rfl⟩

theorem overrides_of_pattern (h : o.pattern = some own) (t₁ t₂ : Settings) :
    o.Overrides own t₁ t₂ := by
  have hmake (t : Settings) : o.choosePattern t = Pattern.ofOwn own :=
    choosePattern_of_own (by rw [ownPattern, h]; rfl)
  exact overrides_of_choosePattern_eq (hmake t₁) (hmake t₂) fun p hp => Pattern.source_of_ofOwn hp

theorem failsAs_of_choosePattern {f : Failure} (hpattern : o.pattern = none)
    (hpreset : o.preset = some preset) (h : o.choosePattern t = .error f) : t.FailsAs f := by
  cases hown : t.pattern with
  | none =>
    obtain ⟨p, hp⟩ := preset.ofSource_isOk
    rw [choosePattern_of_preset (by rw [ownPattern, hpattern, hown]; rfl) hpreset, hp] at h
    contradiction
  | some own => exact ⟨own, hown, by rw [← choosePattern_of_setting hpattern hown, h]⟩

theorem permits_of_choosePattern {p : Pattern} (hpattern : o.pattern = none)
    (h : o.choosePattern t = .ok p) : t.Permits p.source := by
  intro own hown
  rw [choosePattern_of_setting hpattern hown] at h
  exact (Pattern.source_of_ofOwn h).symm

/-- A preset on the command line is the one that is used under two settings exactly if neither holds
another pattern, or if the patterns of both fail in the same way. -/
theorem overrides_iff_of_preset (hpattern : o.pattern = none) (hpreset : o.preset = some preset) :
    o.Overrides preset.source t₁ t₂ ↔
      t₁.Permits preset.source ∧ t₂.Permits preset.source ∨ ∃ f, t₁.FailsAs f ∧ t₂.FailsAs f := by
  constructor
  · intro h
    unfold Overrides at h
    simp only [map_pattern_checkOptions] at h
    rcases h with ⟨f, h₁, h₂⟩ | ⟨p, h₁, h₂, hsource⟩
    · exact Or.inr ⟨f, failsAs_of_choosePattern hpattern hpreset h₁,
        failsAs_of_choosePattern hpattern hpreset h₂⟩
    · rw [← hsource]
      exact Or.inl ⟨permits_of_choosePattern hpattern h₁, permits_of_choosePattern hpattern h₂⟩
  · rintro (⟨h₁, h₂⟩ | ⟨f, ⟨own₁, hown₁, h₁⟩, own₂, hown₂, h₂⟩)
    · refine overrides_of_choosePattern_eq (choosePattern_of_permits hpattern hpreset h₁)
        (choosePattern_of_permits hpattern hpreset h₂) fun p hp => ?_
      rw [← Pattern.ofOwn_of_ne preset.source_ne_empty] at hp
      exact Pattern.source_of_ofOwn hp
    · refine overrides_of_choosePattern_eq ((choosePattern_of_setting hpattern hown₁).trans h₁)
        ((choosePattern_of_setting hpattern hown₂).trans h₂) fun p hp => ?_
      contradiction

/-- The command line overrides two settings exactly if it gives a pattern of one's own, or if no
other pattern stands in either of them, or if the patterns in both fail in the same way. It
overrides all settings that load only if it gives a pattern of one's own. -/
theorem overrides_iff (h : o.askedSource? = some source) :
    (∀ t₁ t₂ : Settings, o.Overrides source t₁ t₂ ↔
      o.pattern.isSome ∨ t₁.Permits source ∧ t₂.Permits source ∨
        ∃ f, t₁.FailsAs f ∧ t₂.FailsAs f) ∧
    ((∀ m₁ m₂ env₁ env₂ t₁ t₂, Settings.ofEnvironment m₁ env₁ = .ok t₁ →
      Settings.ofEnvironment m₂ env₂ = .ok t₂ → o.Overrides source t₁ t₂) ↔
        o.pattern.isSome) := by
  cases hpattern : o.pattern with
  | some own =>
    have hsource : own = source := by
      rw [askedSource?, hpattern] at h
      exact Option.some.inj h
    have hall := overrides_of_pattern (hsource ▸ hpattern)
    exact ⟨fun t₁ t₂ => iff_of_true (hall t₁ t₂) (Or.inl rfl),
      iff_of_true (fun _ _ _ _ t₁ t₂ _ _ => hall t₁ t₂) rfl⟩
  | none =>
    obtain ⟨preset, hpreset, rfl⟩ : ∃ preset, o.preset = some preset ∧ preset.source = source := by
      rw [askedSource?, hpattern] at h
      exact Option.map_eq_some_iff.mp h
    have hiff (t₁ t₂ : Settings) : o.Overrides preset.source t₁ t₂ ↔
        t₁.Permits preset.source ∧ t₂.Permits preset.source ∨ ∃ f, t₁.FailsAs f ∧ t₂.FailsAs f :=
      overrides_iff_of_preset hpattern hpreset
    refine ⟨fun t₁ t₂ => ?_, iff_of_false (fun hall => ?_) Bool.false_ne_true⟩
    · rw [hiff t₁ t₂]
      exact (or_iff_right Bool.false_ne_true).symm
    · -- Settings without a pattern and settings with an empty one tell the two sides apart.
      have h := hall {} {} [] [("RECONCILE_PATTERN", "")] {} { pattern := some "" } rfl rfl
      rcases (hiff _ _).mp h with ⟨-, hp⟩ | ⟨f, ⟨own, hown, -⟩, -⟩
      · exact preset.source_ne_empty (hp "" rfl).symm
      · contradiction

/-- With `--preset version` on the command line, either preset may stand in the settings. -/
theorem overrides_presets :
    ∃ o, CommandLine.parse (["pods.txt", "curl.txt", "--preset", "version"].map String.toUTF8) =
        .ok o ∧
      o.askedSource? = some "reviews-v[123]" ∧
      o.Overrides "reviews-v[123]" { preset := .podName } { preset := .version } := by
  refine ⟨_, rfl, rfl, ((overrides_iff rfl).1 _ _).mpr (Or.inr (Or.inl ⟨?_, ?_⟩))⟩
  · intro own hown
    contradiction
  · intro own hown
    contradiction

/-- With `--preset version` on the command line, the pattern of the settings is used if there is
one. -/
theorem pattern_in_settings_over_preset :
    ∃ o t₁ t₂,
      CommandLine.parse (["pods.txt", "curl.txt", "--preset", "version"].map String.toUTF8) =
        .ok o ∧
      Settings.ofEnvironment {} [] = .ok t₁ ∧
      Settings.ofEnvironment {} [("RECONCILE_PATTERN", "reviews-v[12]")] = .ok t₂ ∧
      o.askedSource? = some "reviews-v[123]" ∧ ¬ o.Overrides "reviews-v[123]" t₁ t₂ := by
  refine ⟨_, {}, { pattern := some "reviews-v[12]" }, rfl, rfl, rfl, rfl, fun h => ?_⟩
  have hpreset : Preset.version.source = "reviews-v[123]" := rfl
  rw [← hpreset, overrides_iff_of_preset rfl rfl] at h
  rcases h with ⟨-, hp⟩ | ⟨f, ⟨own, hown, -⟩, -⟩
  · exact absurd (hp "reviews-v[12]" rfl) (by decide)
  · contradiction

end Options

end RollCall
