import RollCall.Proofs.Session

/-! Loading a file of variables that is well formed. The environment is filled from the bindings of
the file: a variable has the value that the environment sets, and otherwise that of its first
binding. -/
namespace RollCall

namespace Environment

open Settings (lookup_filter_of_keep)

variable {env : Environment} {name value : String} {bs : List (String × String)}

/-- The bindings that are the first of their names. -/
def firstBindings : List (String × String) → List (String × String)
  | [] => []
  | b :: bs => b :: (firstBindings bs).filter (·.1 ≠ b.1)

/-- The environment, filled from some bindings, which count where it sets nothing. -/
def filledFrom (env : Environment) (bs : List (String × String)) : Environment :=
  env ++ (firstBindings bs).filter fun b => (env.get? b.1).isNone

theorem lookup_firstBindings (bs : List (String × String)) (name : String) :
    (firstBindings bs).lookup name = bs.lookup name := by
  induction bs with
  | nil => rfl
  | cons b bs ih =>
    rw [firstBindings, List.lookup_cons, List.lookup_cons]
    by_cases hname : name = b.1
    · rw [beq_iff_eq.mpr hname]
    · rw [beq_eq_false_iff_ne.mpr hname, lookup_filter_of_keep (fun _ => by simp [hname]), ih]

/-- A variable has its value in the environment if it is set there, even to nothing, and otherwise
that of its first binding. -/
theorem get?_filledFrom (env : Environment) (bs : List (String × String)) (name : String) :
    (env.filledFrom bs).get? name = (env.get? name).or (bs.lookup name) := by
  unfold filledFrom get?
  rw [List.lookup_append]
  cases hname : env.lookup name with
  | some old => rfl
  | none =>
    have hkeep (v : String) :
        (fun b : String × String => (env.get? b.1).isNone) (name, v) = true := by
      simp only [get?, hname, Option.isNone_none]
    rw [lookup_filter_of_keep hkeep, lookup_firstBindings]

theorem nodup_firstBindings (bs : List (String × String)) :
    ((firstBindings bs).map Prod.fst).Nodup := by
  induction bs with
  | nil => exact List.nodup_nil
  | cons b bs ih =>
    rw [firstBindings, List.map_cons, List.nodup_cons]
    constructor
    · simp
    · exact (List.filter_sublist.map Prod.fst).nodup ih

/-- No variable stands there twice, if none does in the environment. -/
theorem nodup_filledFrom (h : (env.map Prod.fst).Nodup) (bs : List (String × String)) :
    ((env.filledFrom bs).map Prod.fst).Nodup := by
  rw [filledFrom, List.map_append, List.nodup_append]
  refine ⟨h, (List.filter_sublist.map Prod.fst).nodup (nodup_firstBindings bs), ?_⟩
  rintro name hold _ hnew rfl
  obtain ⟨⟨bound, value⟩, hmem, rfl⟩ := List.mem_map.mp hold
  obtain ⟨b, hb, hname⟩ := List.mem_map.mp hnew
  have hunset := (List.mem_filter.mp hb).2
  rw [hname, get?, Option.isNone_iff_eq_none, List.lookup_eq_none_iff] at hunset
  exact absurd (hunset _ hmem) (by simp)

theorem filledFrom_nil (env : Environment) : env.filledFrom [] = env := List.append_nil env

/-- A binding may be taken into the environment before the later ones are. -/
theorem setDefault_filledFrom (env : Environment) (name value : String)
    (bs : List (String × String)) :
    (env.setDefault name value).filledFrom bs = env.filledFrom ((name, value) :: bs) := by
  unfold setDefault filledFrom
  cases hname : env.get? name with
  | some old =>
    dsimp only
    rw [firstBindings, List.filter_cons_of_neg (by simp [hname]), List.filter_filter]
    congr 1
    refine List.filter_congr fun b _ => ?_
    by_cases hb : b.1 = name <;> simp [hb, hname]
  | none =>
    dsimp only
    rw [firstBindings, List.filter_cons_of_pos (by simp [hname]), List.filter_filter,
      List.append_assoc, List.singleton_append]
    congr 2
    refine List.filter_congr fun b _ => ?_
    rw [get?, get?, List.lookup_append, List.lookup_cons]
    by_cases hb : b.1 = name
    · simp [hb]
    · rw [beq_eq_false_iff_ne.mpr hb]
      simp [hb]

end Environment

namespace DotEnv

variable {env : Environment} {entry : List Char} {name : String} {before after : List (List Char)}

/-- The entry binds a variable, whatever the values of the variables in it are. -/
def Binds (entry : List Char) (name : String) : Prop :=
  ∃ value, Statement.ofEntry (fun _ => "") entry = .binding name value

theorem subject_eq_some_iff {st : Statement} :
    st.subject = some (some name) ↔ ∃ value, st = .binding name value := by
  cases st <;> simp [Statement.subject]

theorem Binds.ofEntry (h : Binds entry name) (lookup : String → String) :
    ∃ value, Statement.ofEntry lookup entry = .binding name value := by
  rw [Binds, ← subject_eq_some_iff] at h
  rwa [← subject_eq_some_iff, subject_ofEntry lookup (fun _ => "")]

/-- Without null characters, loading entries one after the other fills the environment from their
bindings. -/
theorem loadEntries_eq_filledFrom {es : List (List Char)} (h : ¬ HasNull env (bindings env es)) :
    (loadEntries env es).1 = env.filledFrom (bindings env es) := by
  induction es generalizing env with
  | nil => exact env.filledFrom_nil.symm
  | cons entry es ih =>
    rw [bindings] at h ⊢
    cases hs : Statement.ofEntry env.value entry with
    | nothing =>
      rw [loadEntries, hs]
      rw [hs] at h
      exact ih h
    | binding name value =>
      rw [hs] at h
      rw [hasNull_cons, not_or] at h
      rcases loadEntries_binding es hs with ⟨hunset, hnull, -⟩ | ⟨-, hload⟩
      · exact absurd ⟨hunset, hnull⟩ h.1
      · rw [hload, ih h.2, Environment.setDefault_filledFrom]
    | malformed =>
      rw [loadEntries, hs]
      exact env.filledFrom_nil.symm

/-- What is set stays set. -/
theorem isSome_get?_loadEntries (h : (env.get? name).isSome = true) (es : List (List Char)) :
    ((loadEntries env es).1.get? name).isSome = true := by
  induction es generalizing env with
  | nil => exact h
  | cons entry es ih =>
    cases hs : Statement.ofEntry env.value entry with
    | nothing =>
      rw [loadEntries, hs]
      exact ih h
    | binding bound value =>
      rcases loadEntries_binding es hs with ⟨-, -, hload⟩ | ⟨-, hload⟩ <;> rw [hload]
      · exact h
      · refine ih ?_
        rw [get?_setDefault, Option.isSome_or, h, Bool.true_or]
    | malformed =>
      rw [loadEntries, hs]
      exact h

/-- A variable is set after the entry that binds it. -/
theorem isSome_get?_of_binds {es : List (List Char)} (hload : (loadEntries env es).2 = .finished)
    (hentry : entry ∈ es) (h : Binds entry name) :
    ((loadEntries env es).1.get? name).isSome = true := by
  obtain ⟨before, after, rfl⟩ := List.append_of_mem hentry
  rw [loadEntries_append] at hload ⊢
  split at hload
  · next hbefore =>
    rw [if_pos hbefore]
    obtain ⟨value, hvalue⟩ := h.ofEntry (loadEntries env before).1.value
    rcases loadEntries_binding after hvalue with ⟨-, -, hbinds⟩ | ⟨-, hbinds⟩
    · rw [hbinds] at hload
      contradiction
    · rw [hbinds]
      refine isSome_get?_loadEntries ?_ after
      rw [get?_setDefault, if_pos rfl, Option.isSome_or, Option.isSome_some, Bool.or_true]
  · next hbefore => exact absurd hload hbefore

/-- An entry that binds a variable which is set already might as well not be there. -/
theorem loadEntries_insert_of_set (h : Binds entry name)
    (hset : (loadEntries env before).2 = .finished →
      ((loadEntries env before).1.get? name).isSome = true) :
    loadEntries env (before ++ entry :: after) = loadEntries env (before ++ after) := by
  rw [loadEntries_append, loadEntries_append]
  by_cases hbefore : (loadEntries env before).2 = .finished
  · rw [if_pos hbefore, if_pos hbefore]
    obtain ⟨value, hvalue⟩ := h.ofEntry (loadEntries env before).1.value
    obtain ⟨old, hold⟩ := Option.isSome_iff_exists.mp (hset hbefore)
    rcases loadEntries_binding after hvalue with ⟨hunset, -⟩ | ⟨-, hbinds⟩
    · rw [hold] at hunset
      contradiction
    · rw [hbinds, Environment.setDefault, hold]
  · rw [if_neg hbefore, if_neg hbefore]

end DotEnv

namespace Surroundings

open DotEnv (Binds Entries HasNull bindings loadEntries loadEntries_insert_of_set)

variable {s : Surroundings} {file file' : ByteArray}

/-- Files with the same entries to load, up to some that make no difference, lead to the same run. -/
theorem run_of_loadEntries_eq (hfile : s.dotEnv = some file)
    (hgood : (Entries.ofFile file).stop = .finished) (hgood' : (Entries.ofFile file').stop = .finished)
    (h : loadEntries s.environment (Entries.ofFile file').entries =
      loadEntries s.environment (Entries.ofFile file).entries) :
    { s with dotEnv := some file' }.run = s.run := by
  refine (run_of_load_eq hfile ?_).2.2
  rw [DotEnv.load_eq_loadEntries, DotEnv.load_eq_loadEntries, h, hgood, hgood']
  exact ⟨rfl, fun _ => Iff.rfl⟩

theorem settings_of_wellFormed (hfile : s.dotEnv = some file) (hgood : DotEnv.WellFormed file)
    (hnull : ¬ HasNull s.environment (bindings s.environment (Entries.ofFile file).entries)) :
    s.settings = Settings.ofEnvironment s.machine
      (s.environment.filledFrom (bindings s.environment (Entries.ofFile file).entries)) := by
  have hstop : (DotEnv.load s.environment file).2 = .finished := by
    rcases DotEnv.loadEntries_snd hgood.entries with ⟨h, -⟩ | ⟨-, h⟩
    · exact absurd h hnull
    · rw [DotEnv.load_eq_loadEntries, h, if_pos rfl, hgood.finished]
  rw [settings_of_not_crash fun c hc => ?_]
  · rw [fullEnvironment, loadVariables_of_dotEnv hfile]
    exact congrArg _ (DotEnv.loadEntries_eq_filledFrom hnull)
  · rw [loadVariables_of_dotEnv hfile, hstop] at hc
    contradiction

theorem loadVariables_of_hasNull (hfile : s.dotEnv = some file) (hgood : DotEnv.WellFormed file)
    (hnull : HasNull s.environment (bindings s.environment (Entries.ofFile file).entries)) :
    s.loadVariables.2 = .crashed .panic := by
  rw [loadVariables_of_dotEnv hfile, DotEnv.load_eq_loadEntries]
  rcases DotEnv.loadEntries_snd hgood.entries with ⟨-, h⟩ | ⟨h, -⟩
  · rw [h]
    rfl
  · exact absurd hnull h

/-- A run with a file of variables that is well formed has the settings of the environment, filled
from the bindings of the file, unless one of the values to be set has a null character in it: then
it breaks off. The value that the file gives to a variable of the environment does not matter to the
run, nor does a further binding of a variable. -/
theorem run_of_wellFormed_dotEnv (s : Surroundings) (file : ByteArray)
    (hfile : s.dotEnv = some file) (hgood : DotEnv.WellFormed file) :
    let bs := bindings s.environment (Entries.ofFile file).entries
    (HasNull s.environment bs → s.settings = .error (.crash .panic) ∧
      ∀ o, CommandLine.parse s.arguments = .ok o → s.run = ⟨.crashed .panic, false⟩) ∧
    (¬ HasNull s.environment bs →
      s.settings = Settings.ofEnvironment s.machine (s.environment.filledFrom bs)) ∧
    (∀ name, (s.environment.filledFrom bs).get? name =
      (s.environment.get? name).or (bs.lookup name)) ∧
    ((s.environment.map Prod.fst).Nodup → ((s.environment.filledFrom bs).map Prod.fst).Nodup) ∧
    (∀ file' name before entry entry' after,
      Entries.ofFile file = ⟨before ++ entry :: after, .finished⟩ →
      Entries.ofFile file' = ⟨before ++ entry' :: after, .finished⟩ →
      Binds entry name → Binds entry' name → (s.environment.get? name).isSome = true →
        { s with dotEnv := some file' }.run = s.run) ∧
    ∀ file' name before entry after,
      Entries.ofFile file = ⟨before ++ after, .finished⟩ →
      Entries.ofFile file' = ⟨before ++ entry :: after, .finished⟩ →
      (∃ first ∈ before, Binds first name) → Binds entry name →
        { s with dotEnv := some file' }.run = s.run := by
  refine ⟨fun hnull => ?_, settings_of_wellFormed hfile hgood, Environment.get?_filledFrom _ _,
    fun h => Environment.nodup_filledFrom h _, ?_, ?_⟩
  · have hsettings := settings_of_crash (loadVariables_of_hasNull hfile hgood hnull)
    exact ⟨hsettings, fun o ho => run_of_crash ho hsettings⟩
  · intro file' name before entry entry' after hentries hentries' hentry hentry' hset
    have hset := DotEnv.isSome_get?_loadEntries hset before
    refine run_of_loadEntries_eq hfile (by rw [hentries]) (by rw [hentries']) ?_
    rw [hentries, hentries', loadEntries_insert_of_set hentry fun _ => hset,
      loadEntries_insert_of_set hentry' fun _ => hset]
  · rintro file' name before entry after hentries hentries' ⟨first, hfirst, hbinds⟩ hentry
    refine run_of_loadEntries_eq hfile (by rw [hentries]) (by rw [hentries']) ?_
    rw [hentries, hentries', loadEntries_insert_of_set hentry fun hload =>
      DotEnv.isSome_get?_of_binds hload hfirst hbinds]

/-- A run whose environment sets the pattern to nothing: another pattern in the file makes no
difference, nor does a second line for the format. -/
theorem run_of_wellFormed_two_lines :
    let file := "RECONCILE_PATTERN=reviews\nRECONCILE_FORMAT=json\n".toUTF8
    let other := "RECONCILE_PATTERN=x\nRECONCILE_FORMAT=json\n".toUTF8
    let longer := "RECONCILE_PATTERN=reviews\nRECONCILE_FORMAT=json\nRECONCILE_FORMAT=text\n".toUTF8
    let s : Surroundings :=
      { arguments := ["pods.txt", "log.txt"].map String.toUTF8
        environment := [("RECONCILE_PATTERN", "")], dotEnv := some file
        files := fun _ => .ok .empty, now := ⟨0, 0⟩, terminal := false }
    DotEnv.WellFormed file ∧ s.settings = .ok { pattern := some "", format := .json } ∧
      { s with dotEnv := some other }.run = s.run ∧
      { s with dotEnv := some longer }.run = s.run := by
  intro file other longer s
  have hentries : Entries.ofFile file =
      ⟨["RECONCILE_PATTERN=reviews".toList, "RECONCILE_FORMAT=json".toList], .finished⟩ := by
    decide +kernel
  have hgood : DotEnv.WellFormed file := by
    constructor
    · rw [hentries]
      unfold DotEnv.Malformed
      decide +kernel
    · rw [hentries]
  have hbindings : bindings s.environment (Entries.ofFile file).entries =
      [("RECONCILE_PATTERN", "reviews"), ("RECONCILE_FORMAT", "json")] := by
    rw [hentries]
    decide +kernel
  have hnull : ¬ HasNull s.environment (bindings s.environment (Entries.ofFile file).entries) :=
    DotEnv.not_hasNull (by rw [hbindings]; decide)
  obtain ⟨-, hsettings, -, -, hvalue, hsecond⟩ := run_of_wellFormed_dotEnv s file rfl hgood
  refine ⟨hgood, (hsettings hnull).trans (by decide +kernel), ?_, ?_⟩
  · exact hvalue other "RECONCILE_PATTERN" [] "RECONCILE_PATTERN=reviews".toList
      "RECONCILE_PATTERN=x".toList ["RECONCILE_FORMAT=json".toList] hentries
      (by decide +kernel) ⟨"reviews", by decide +kernel⟩ ⟨"x", by decide +kernel⟩ rfl
  · exact hsecond longer "RECONCILE_FORMAT"
      ["RECONCILE_PATTERN=reviews".toList, "RECONCILE_FORMAT=json".toList]
      "RECONCILE_FORMAT=text".toList [] hentries (by decide +kernel)
      ⟨_, List.mem_cons_of_mem _ List.mem_cons_self, "json", by decide +kernel⟩
      ⟨"text", by decide +kernel⟩

/-- A null character in a variable of no setting breaks the run off. -/
theorem run_of_null_in_dotEnv :
    let file := "A=\x00\n".toUTF8
    let s : Surroundings :=
      { arguments := ["pods.txt", "log.txt"].map String.toUTF8, environment := []
        dotEnv := some file, files := fun _ => .ok .empty, now := ⟨0, 0⟩, terminal := false }
    DotEnv.WellFormed file ∧
      Settings.ofEnvironment s.machine
        (s.environment.filledFrom (bindings s.environment (Entries.ofFile file).entries)) = .ok {} ∧
      s.settings = .error (.crash .panic) ∧ s.run.ending.exitCode = 101 := by
  intro file s
  have hentries : Entries.ofFile file = ⟨["A=\x00".toList], .finished⟩ := by decide +kernel
  have hgood : DotEnv.WellFormed file := by
    constructor
    · rw [hentries]
      unfold DotEnv.Malformed
      decide +kernel
    · rw [hentries]
  have hbindings : bindings s.environment (Entries.ofFile file).entries = [("A", "\x00")] := by
    rw [hentries]
    decide +kernel
  have hnull : HasNull s.environment (bindings s.environment (Entries.ofFile file).entries) := by
    rw [hbindings]
    exact ⟨"A", "\x00", rfl, rfl, by decide⟩
  have hsettings := settings_of_crash (loadVariables_of_hasNull rfl hgood hnull)
  have hparse : CommandLine.parse s.arguments =
      .ok { podsFile := "pods.txt".toUTF8, logFile := "log.txt".toUTF8 } := rfl
  refine ⟨hgood, by rw [hbindings]; decide +kernel, hsettings, ?_⟩
  rw [run_of_crash hparse hsettings]
  rfl

end Surroundings

end RollCall
