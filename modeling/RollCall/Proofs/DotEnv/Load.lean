import Mathlib.Data.Nat.Find
import RollCall.Proofs.DotEnv.Entries
import RollCall.Session

/-! Loading a file of variables that is not well formed. The bindings before the malformed entry
stay: the environment is that of the file cut off before this entry. -/
namespace RollCall
namespace DotEnv

section Statements

variable {entry : List Char}

/-- Whether a value is malformed does not depend on the variables in it. -/
theorem isSome_readValue (lookup lookup' : String → String) (m : Mode) (out out' s : List Char) :
    (readValue lookup m out s).isSome = (readValue lookup' m out' s).isSome := by
  induction s generalizing m out out' with
  | nil => cases m with
    | text quoted | escape quoted => cases quoted <;> rfl
    | name quoted _ => cases quoted <;> rfl
    | strong | braces | ended => rfl
  | cons c s ih =>
    cases m with
    | text quoted | name quoted _ | braces quoted _ | strong =>
      simp only [readValue]
      split_ifs <;> exact ih ..
    | escape quoted =>
      simp only [readValue]
      cases escaped? c with
      | none => rfl
      | some e => exact ih ..
    | ended =>
      simp only [readValue]
      split_ifs
      · exact ih ..
      · rfl
      · rfl

/-- What a statement is about: nothing, the variable that it binds, or not even that. -/
def Statement.subject : Statement → Option (Option String)
  | .nothing => some none
  | .binding name _ => some (some name)
  | .malformed => none

/-- What an entry is about does not depend on the variables in it. -/
theorem subject_ofEntry (lookup lookup' : String → String) (entry : List Char) :
    (Statement.ofEntry lookup entry).subject = (Statement.ofEntry lookup' entry).subject := by
  rw [Statement.ofEntry, Statement.ofEntry]
  generalize skipBlanks (entry.reverse.dropWhile Unicode.isBlank).reverse = s
  by_cases hs : s.isEmpty ∨ s.head? = some '#'
  · rw [if_pos hs, if_pos hs]
  · rw [if_neg hs, if_neg hs]
    cases readTarget? s with
    | none => rfl
    | some target =>
      obtain ⟨name, text⟩ := target
      dsimp only
      by_cases htext : text.isEmpty ∨ text.head? = some '#'
      · rw [if_pos htext, if_pos htext]
      · rw [if_neg htext, if_neg htext]
        have hsome := isSome_readValue lookup lookup' (.text false) [] [] text
        cases h : readValue lookup (.text false) [] text <;>
          cases h' : readValue lookup' (.text false) [] text <;> simp [h, h'] at hsome <;> rfl

/-- The entry is malformed, whatever the values of the variables in it are. -/
def Malformed (entry : List Char) : Prop := Statement.ofEntry (fun _ => "") entry = .malformed

theorem subject_eq_none_iff {st : Statement} : st.subject = none ↔ st = .malformed := by
  cases st <;> simp [Statement.subject]

theorem ofEntry_eq_malformed_iff (lookup : String → String) :
    Statement.ofEntry lookup entry = .malformed ↔ Malformed entry := by
  rw [Malformed, ← subject_eq_none_iff, ← subject_eq_none_iff, subject_ofEntry]

end Statements

section Loading

variable {env : Environment} {entry : List Char} {as : List (List Char)}

/-- The bindings of entries in order, each with the value it has where it is read. -/
def bindings (env : Environment) : List (List Char) → List (String × String)
  | [] => []
  | entry :: rest =>
    match Statement.ofEntry env.value entry with
    | .nothing => bindings env rest
    | .binding name value => (name, value) :: bindings (env.setDefault name value) rest
    | .malformed => []

theorem get?_setDefault (env : Environment) (bound value name : String) :
    (env.setDefault bound value).get? name =
      (env.get? name).or (if name = bound then some value else none) := by
  rw [Environment.setDefault]
  by_cases h : name = bound
  · subst h
    rw [if_pos rfl]
    cases hname : env.get? name with
    | some old => rw [hname]; rfl
    | none =>
      show List.lookup name (env ++ [(name, value)]) = some value
      rw [List.lookup_append, show env.lookup name = none from hname]
      simp
  · have hkey : (name == bound) = false := beq_eq_false_iff_ne.mpr h
    rw [if_neg h, Option.or_none]
    cases env.get? bound with
    | some old => rfl
    | none =>
      show List.lookup name (env ++ [(bound, value)]) = _
      simp [List.lookup_append, List.lookup_cons, hkey, Environment.get?]

/-- A variable that the bindings set, as the environment does not, has a null character in its
value. -/
def HasNull (env : Environment) (bs : List (String × String)) : Prop :=
  ∃ name value, bs.lookup name = some value ∧ env.get? name = none ∧ '\x00' ∈ value.toList

theorem not_hasNull {bs : List (String × String)} (h : ∀ b ∈ bs, '\x00' ∉ b.2.toList) :
    ¬ HasNull env bs := by
  rintro ⟨name, value, hlookup, -, hnull⟩
  obtain ⟨l, l', rfl, -⟩ := List.lookup_eq_some_iff.mp hlookup
  exact h (name, value) (by simp) hnull

theorem hasNull_cons {name value : String} {bs : List (String × String)} :
    HasNull env ((name, value) :: bs) ↔
      env.get? name = none ∧ '\x00' ∈ value.toList ∨ HasNull (env.setDefault name value) bs := by
  have hlookup {bound : String} (h : bound ≠ name) :
      ((name, value) :: bs).lookup bound = bs.lookup bound ∧
        (env.setDefault name value).get? bound = env.get? bound := by
    rw [List.lookup_cons, beq_eq_false_iff_ne.mpr h, get?_setDefault, if_neg h, Option.or_none]
    exact ⟨rfl, rfl⟩
  constructor
  · rintro ⟨bound, v, hbound, hunset, hnull⟩
    by_cases h : bound = name
    · subst h
      rw [List.lookup_cons, beq_self_eq_true] at hbound
      exact Or.inl ⟨hunset, Option.some.inj hbound ▸ hnull⟩
    · exact Or.inr ⟨bound, v, (hlookup h).1 ▸ hbound, (hlookup h).2 ▸ hunset, hnull⟩
  · rintro (⟨hunset, hnull⟩ | ⟨bound, v, hbound, hunset, hnull⟩)
    · exact ⟨name, value, by rw [List.lookup_cons, beq_self_eq_true], hunset, hnull⟩
    · have h : bound ≠ name := by
        rintro rfl
        simp [get?_setDefault] at hunset
      exact ⟨bound, v, (hlookup h).1.trans hbound, (hlookup h).2 ▸ hunset, hnull⟩

/-- What an entry that binds a variable makes of the environment. -/
theorem loadEntries_binding {name value : String} (rest : List (List Char))
    (h : Statement.ofEntry env.value entry = .binding name value) :
    env.get? name = none ∧ '\x00' ∈ value.toList ∧
        loadEntries env (entry :: rest) = (env, .crashed .panic) ∨
      ¬ (env.get? name = none ∧ '\x00' ∈ value.toList) ∧
        loadEntries env (entry :: rest) = loadEntries (env.setDefault name value) rest := by
  rw [loadEntries, h]
  dsimp only
  split
  · next hnull =>
    rw [Bool.and_eq_true, Option.isNone_iff_eq_none, List.contains_iff_mem] at hnull
    exact Or.inl ⟨hnull.1, hnull.2, rfl⟩
  · next hnull =>
    rw [Bool.and_eq_true, Option.isNone_iff_eq_none, List.contains_iff_mem] at hnull
    exact Or.inr ⟨hnull, rfl⟩

/-- Entries are loaded one part after the other, unless loading stops in the first part. -/
theorem loadEntries_append (env : Environment) (as bs : List (List Char)) :
    loadEntries env (as ++ bs) =
      if (loadEntries env as).2 = .finished then loadEntries (loadEntries env as).1 bs
      else loadEntries env as := by
  induction as generalizing env with
  | nil => rfl
  | cons a as ih =>
    rw [List.cons_append]
    cases hs : Statement.ofEntry env.value a with
    | nothing =>
      rw [loadEntries, loadEntries, hs]
      exact ih env
    | binding name value =>
      rcases loadEntries_binding (as ++ bs) hs with ⟨hunset, hnull, hload⟩ | ⟨hset, hload⟩ <;>
        rcases loadEntries_binding as hs with ⟨hunset', hnull', hload'⟩ | ⟨hset', hload'⟩
      · rw [hload, hload', if_neg nofun]
      · exact absurd ⟨hunset, hnull⟩ hset'
      · exact absurd ⟨hunset', hnull'⟩ hset
      · rw [hload, hload', ih]
    | malformed =>
      rw [loadEntries, loadEntries, hs]
      exact (if_neg nofun).symm

/-- How loading well-formed entries ends. -/
theorem loadEntries_snd {es : List (List Char)} (h : ∀ entry ∈ es, ¬ Malformed entry) :
    HasNull env (bindings env es) ∧ (loadEntries env es).2 = .crashed .panic ∨
      ¬ HasNull env (bindings env es) ∧ (loadEntries env es).2 = .finished := by
  induction es generalizing env with
  | nil => exact Or.inr ⟨fun ⟨_, _, h, _⟩ => (nomatch h), rfl⟩
  | cons entry es ih =>
    rw [List.forall_mem_cons, ← ofEntry_eq_malformed_iff env.value] at h
    rw [bindings]
    cases hs : Statement.ofEntry env.value entry with
    | nothing =>
      rw [loadEntries, hs]
      exact ih h.2
    | binding name value =>
      dsimp only
      rw [hasNull_cons]
      rcases loadEntries_binding es hs with ⟨hunset, hnull, hload⟩ | ⟨hset, hload⟩
      · exact Or.inl ⟨Or.inl ⟨hunset, hnull⟩, by rw [hload]⟩
      · rw [hload, or_iff_right hset]
        exact ih h.2
    | malformed => exact absurd hs h.1

/-- Loading entries breaks off only at a null character. -/
theorem hasNull_of_crashed {es : List (List Char)} {c : Crash}
    (h : (loadEntries env es).2 = .crashed c) : HasNull env (bindings env es) := by
  induction es generalizing env with
  | nil => contradiction
  | cons entry es ih =>
    rw [bindings]
    cases hs : Statement.ofEntry env.value entry with
    | nothing =>
      rw [loadEntries, hs] at h
      exact ih h
    | binding name value =>
      dsimp only
      rw [hasNull_cons]
      rcases loadEntries_binding es hs with ⟨hunset, hnull, -⟩ | ⟨-, hload⟩
      · exact Or.inl ⟨hunset, hnull⟩
      · exact Or.inr (ih (hload ▸ h))
    | malformed =>
      rw [loadEntries, hs] at h
      contradiction

/-- All of the file can be read, and none of its entries is malformed. -/
structure WellFormed (file : ByteArray) : Prop where
  entries : ∀ entry ∈ (Entries.ofFile file).entries, ¬ Malformed entry
  finished : (Entries.ofFile file).stop = .finished

theorem load_eq_loadEntries (env : Environment) (file : ByteArray) :
    load env file = ((loadEntries env (Entries.ofFile file).entries).1,
      if (loadEntries env (Entries.ofFile file).entries).2 = .finished then
        (Entries.ofFile file).stop
      else (loadEntries env (Entries.ofFile file).entries).2) := rfl

end Loading

section Marks

variable {start bytes : List UInt8}

def mark (bytes : List UInt8) : List UInt8 :=
  if byteOrderMark.isPrefixOf bytes then byteOrderMark else []

def body (bytes : List UInt8) : List UInt8 :=
  if byteOrderMark.isPrefixOf bytes then bytes.drop byteOrderMark.length else bytes

end Marks

section Cut

variable {file cut : ByteArray}

end Cut

end DotEnv

namespace Surroundings

variable {s : Surroundings} {file file' : ByteArray}

theorem loadVariables_of_dotEnv (h : s.dotEnv = some file) :
    s.loadVariables = DotEnv.load s.environment file := by
  rw [loadVariables, h]

theorem settings_of_crash {c : Crash} (h : s.loadVariables.2 = .crashed c) :
    s.settings = .error (.crash c) := by
  rw [settings, h]

theorem settings_of_not_crash (h : ∀ c, s.loadVariables.2 ≠ .crashed c) :
    s.settings = Settings.ofEnvironment s.machine s.fullEnvironment := by
  rw [settings]
  cases hstop : s.loadVariables.2 with
  | crashed c => exact absurd hstop (h c)
  | finished | malformed => rfl

/-- A run sees a file of variables only by the environment that it leads to, and by whether it
breaks the run off. -/
theorem run_of_load_eq (hfile : s.dotEnv = some file)
    (h : (DotEnv.load s.environment file').1 = (DotEnv.load s.environment file).1 ∧
      ∀ c, (DotEnv.load s.environment file').2 = .crashed c ↔
        (DotEnv.load s.environment file).2 = .crashed c) :
    { s with dotEnv := some file' }.fullEnvironment = s.fullEnvironment ∧
      { s with dotEnv := some file' }.settings = s.settings ∧
      { s with dotEnv := some file' }.run = s.run := by
  have henv : { s with dotEnv := some file' }.fullEnvironment = s.fullEnvironment := by
    rw [fullEnvironment, fullEnvironment, loadVariables_of_dotEnv hfile]
    exact h.1
  have hcrash (c : Crash) : { s with dotEnv := some file' }.loadVariables.2 = .crashed c ↔
      s.loadVariables.2 = .crashed c := by
    rw [loadVariables_of_dotEnv hfile]
    exact h.2 c
  have hsettings : { s with dotEnv := some file' }.settings = s.settings := by
    by_cases hc : ∃ c, s.loadVariables.2 = .crashed c
    · obtain ⟨c, hc⟩ := hc
      rw [settings_of_crash hc, settings_of_crash ((hcrash c).mpr hc)]
    · have hno := not_exists.mp hc
      rw [settings_of_not_crash hno, settings_of_not_crash fun c hc => hno c ((hcrash c).mp hc), henv]
  have hcheck (o : Options) : { s with dotEnv := some file' }.check o = s.check o := by
    unfold check
    rw [henv, hsettings]
  refine ⟨henv, hsettings, ?_⟩
  unfold run
  simp only [hcheck]

end Surroundings

end RollCall
