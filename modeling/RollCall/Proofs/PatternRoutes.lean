import RollCall.Proofs.Choice
import RollCall.Proofs.CommandLine.Reader
import RollCall.Proofs.Settings.Inserting
import RollCall.Proofs.Settings.Scalar

/-! The two ways to give a pattern of one's own. The command line takes a text as it is; a variable
of the environment is taken as a value first, and its text is what the value is written as. -/
namespace RollCall

variable {o : Options} {s : Settings} {m : Machine} {before after : Environment} {first rest : List ByteArray}

theorem pathOf?_pattern : Settings.pathOf? "RECONCILE_PATTERN" = some "pattern" := rfl

/-- A pattern is used in the same way from either side. -/
theorem checkOptions_pattern (h : o.pattern = none) (s : Settings) (r : String) :
    o.checkOptions { s with pattern := some r } =
      ({ o with pattern := some r } : Options).checkOptions s := by
  have hsetting : o.choosePattern { s with pattern := some r } = Pattern.ofOwn r :=
    Options.choosePattern_of_setting h rfl
  have hoption : ({ o with pattern := some r } : Options).choosePattern s = Pattern.ofOwn r :=
    Options.choosePattern_of_own rfl
  unfold Options.checkOptions
  rw [hsetting, hoption]

theorem checkOptions_of_own {r : String} {p : Pattern} (h : o.ownPattern s = some r)
    (hp : Pattern.ofOwn r = .ok p) : ∃ a, o.checkOptions s = .ok a ∧ a.pattern.source = r := by
  unfold Options.checkOptions
  rw [Options.choosePattern_of_own h, hp]
  exact ⟨_, rfl, Pattern.source_of_ofOwn hp⟩

theorem source_of_checkOptions {r : String} {a : CheckOptions} (h : o.ownPattern s = some r)
    (ha : o.checkOptions s = .ok a) : a.pattern.source = r := by
  have hmap := o.map_pattern_checkOptions s
  rw [ha, Options.choosePattern_of_own h] at hmap
  exact Pattern.source_of_ofOwn hmap.symm

/-- A pattern in the environment has the effect of the same pattern on the command line, wherever it
may stand there, exactly if its text comes back unchanged. Both ways lead to settings and options;
with any other text they check with different patterns, if both check. -/
theorem pattern_routes_agree_iff (hwords : CommandLine.parse (first ++ rest) = .ok o)
    (ho : o.pattern = none) (hfirst : CommandLine.TakesOption first)
    (henv : Settings.ofEnvironment m (before ++ after) = .ok s)
    (hafter : ∀ v ∈ after, ¬ Settings.Names v.1 "pattern") (r : String) :
    ∃ t o', Settings.ofEnvironment m (before ++ ("RECONCILE_PATTERN", r) :: after) = .ok t ∧
      CommandLine.parse (first ++ ("--pattern=" ++ r).toUTF8 :: rest) = .ok o' ∧
      (t.pattern = some r ↔ Settings.Verbatim r) ∧
      (Settings.Verbatim r → o.checkOptions t = o'.checkOptions s) ∧
      (¬ Settings.Verbatim r → ∀ a b, o.checkOptions t = .ok a → o'.checkOptions s = .ok b →
        a.pattern.source ≠ b.pattern.source) := by
  have hroundTrip := Settings.asText_ofText_iff r
  refine ⟨_, _, Settings.ofEnvironment_insert_pattern pathOf?_pattern hafter henv,
    CommandLine.parse_insert_pattern hwords ho hfirst r, ?_, ?_, ?_⟩
  · rw [← hroundTrip]
    exact Option.some_inj
  · intro h
    rw [hroundTrip.mpr h]
    exact checkOptions_pattern ho s r
  · intro h a b ha hb
    rw [source_of_checkOptions (by rw [Options.ownPattern, ho]; rfl) ha,
      source_of_checkOptions rfl hb]
    exact fun heq => h (hroundTrip.mp heq)

/-- A pattern with a bracket is the same from the environment and from the command line. -/
theorem pattern_routes_bracket :
    ∃ o o' t, CommandLine.parse (["pods.txt", "curl.txt"].map String.toUTF8) = .ok o ∧
      Settings.ofEnvironment {}
        [("RECONCILE_COLOR", "false"), ("RECONCILE_PATTERN", "reviews-v[12]")] = .ok t ∧
      CommandLine.parse (["pods.txt", "--pattern=reviews-v[12]", "curl.txt"].map String.toUTF8) =
        .ok o' ∧
      t.pattern = some "reviews-v[12]" ∧ o.checkOptions t = o'.checkOptions { color := false } := by
  have hverbatim : Settings.Verbatim "reviews-v[12]" :=
    Settings.verbatim_of_mem (c := '[') (by decide) (by decide) (by decide)
  have hwords : CommandLine.parse (["pods.txt".toUTF8] ++ ["curl.txt".toUTF8]) =
      .ok { podsFile := "pods.txt".toUTF8, logFile := "curl.txt".toUTF8 } := rfl
  have henv : Settings.ofEnvironment {} ([("RECONCILE_COLOR", "false")] ++ []) =
      .ok { color := false } := rfl
  obtain ⟨t, o', ht, ho', hpattern, hsame, -⟩ := pattern_routes_agree_iff hwords rfl
    ⟨_, rfl, rfl, nofun⟩ henv nofun "reviews-v[12]"
  exact ⟨_, o', t, rfl, ht, ho', hpattern.mpr hverbatim, hsame hverbatim⟩

/-- Leading zeros are lost on the way through the environment. -/
theorem pattern_routes_zeros :
    ∃ o o' t a b, CommandLine.parse (["pods.txt", "curl.txt"].map String.toUTF8) = .ok o ∧
      Settings.ofEnvironment {} [("RECONCILE_PATTERN", "007")] = .ok t ∧
      CommandLine.parse (["--pattern=007", "pods.txt", "curl.txt"].map String.toUTF8) = .ok o' ∧
      t.pattern = some "7" ∧ o.checkOptions t = .ok a ∧ o'.checkOptions {} = .ok b ∧
      a.pattern.source = "7" ∧ b.pattern.source = "007" := by
  obtain ⟨p, hp⟩ : ∃ p, Pattern.ofOwn "7" = .ok p := ok_of_toBool (by cbv)
  obtain ⟨q, hq⟩ : ∃ q, Pattern.ofOwn "007" = .ok q := ok_of_toBool (by cbv)
  let o : Options := { podsFile := "pods.txt".toUTF8, logFile := "curl.txt".toUTF8 }
  obtain ⟨a, ha, hsource⟩ := checkOptions_of_own (o := o) (s := { pattern := some "7" }) rfl hp
  obtain ⟨b, hb, hsource'⟩ :=
    checkOptions_of_own (o := { o with pattern := some "007" }) (s := {}) rfl hq
  exact ⟨_, _, _, a, b, rfl, rfl, rfl, rfl, ha, hb, hsource, hsource'⟩

end RollCall
