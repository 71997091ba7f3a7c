import Mathlib.Data.List.Forall2
import Mathlib.Data.List.Nodup
import RollCall.Proofs.CommandLine.Flags

/-! Command lines written for options: a word for each option that is set, in any order, and paths
in order among the words or after two dashes. -/
namespace RollCall

inductive Interleaved {α : Type} : List α → List α → List α → Prop
  | nil : Interleaved [] [] []
  | left {x : α} {xs ys zs : List α} (h : Interleaved xs ys zs) :
      Interleaved (x :: xs) ys (x :: zs)
  | right {y : α} {xs ys zs : List α} (h : Interleaved xs ys zs) :
      Interleaved xs (y :: ys) (y :: zs)

theorem Interleaved.all_left {α : Type} : ∀ xs : List α, Interleaved xs [] xs
  | [] => .nil
  | _ :: xs => .left (all_left xs)

namespace Options

def text? (o : Options) : Argument → Option String
  | .preset => o.preset.map Preset.name
  | .pattern => o.pattern
  | .format => o.format.map OutputFormat.name
  | _ => none

def flag (o : Options) : Argument → Bool
  | .counts => o.counts
  | .noColor => o.noColor
  | .verbose => o.verbose
  | _ => false

inductive Word (o : Options) : Argument → ByteArray → Prop
  | value {a : Argument} {name text : String} (hname : a.name? = some name)
      (htext : o.text? a = some text) : Word o a ("--" ++ name ++ "=" ++ text).toUTF8
  | name {a : Argument} {name : String} (hname : a.name? = some name) (hflag : o.flag a = true) :
      Word o a ("--" ++ name).toUTF8
  | letter {a : Argument} {c : Char} (hletter : a.letter? = some c) (hflag : o.flag a = true) :
      Word o a ("-" ++ c.toString).toUTF8

def given (o : Options) : List Argument :=
  Argument.options.filter fun a => (o.text? a).isSome || o.flag a

/-- A word for each option that is set, in any order. -/
def Words (o : Options) (ws : List ByteArray) : Prop :=
  ∃ as, as.Perm o.given ∧ List.Forall₂ o.Word as ws

end Options

namespace CommandLine

def Plain (word : ByteArray) : Prop := word.data.toList.head? ≠ some 0x2D

/-- Words and paths on a command line. Paths that begin with a dash, or any others, may follow two
dashes. -/
inductive Line (ws : List ByteArray) : List ByteArray → List ByteArray → Prop
  | plain {paths line : List ByteArray} (h : Interleaved ws paths line)
      (hplain : ∀ path ∈ paths, Plain path) : Line ws paths line
  | dashes {first line : List ByteArray} (h : Interleaved ws first line)
      (hplain : ∀ path ∈ first, Plain path) (rest : List ByteArray) :
      Line ws (first ++ rest) (line ++ "--".toUTF8 :: rest)

variable {o o' : Options} {a : Argument} {as : List Argument} {ps : List ByteArray}
  {word value : ByteArray}

section Drafts

/-- What was taken over when some of the options and some paths have been read. -/
def draftOf (o : Options) (as : List Argument) (ps : List ByteArray) : Draft where
  podsFile := ps[0]?
  logFile := ps[1]?
  preset := if .preset ∈ as then o.preset else none
  pattern := if .pattern ∈ as then o.pattern else none
  counts := decide (.counts ∈ as)
  format := if .format ∈ as then o.format else none
  noColor := decide (.noColor ∈ as)
  verbose := decide (.verbose ∈ as)

theorem choose_toUTF8 {α : Type} {named? : String → Option α} {text : String} {choice : α}
    (h : named? text = some choice) : choose a named? text.toUTF8 = .ok choice := by
  refine bind_ok.mpr ⟨text, textOf_toUTF8 text, ?_⟩
  simp only [h]
  rfl

theorem ofName?_presetName (p : Preset) : Preset.ofName? p.name = some p := by
  cases p <;> rfl

theorem ofName?_formatName (f : OutputFormat) : OutputFormat.ofName? f.name = some f := by
  cases f <;> rfl

theorem has_draftOf_of_text {text : String} (h : o.text? a = some text) :
    (draftOf o as ps).has a = decide (a ∈ as) := by
  have hite {α : Type} {b : Argument} {x : Option α} (hx : x.isSome = true) :
      (if b ∈ as then x else none).isSome = decide (b ∈ as) := by
    by_cases hb : b ∈ as <;> simp [hb, hx]
  have hsome := Option.isSome_of_eq_some h
  cases a with
  | preset => exact hite (by simpa [Options.text?] using hsome)
  | pattern => exact hite hsome
  | format => exact hite (by simpa [Options.text?] using hsome)
  | _ => contradiction

/-- An option is taken over from its text unless it was before. -/
theorem put_text {text : String} (h : o.text? a = some text) (ha : a ∉ as) :
    (draftOf o as ps).put a text.toUTF8 = .ok (draftOf o (as ++ [a]) ps) := by
  rw [Draft.put_eq_ok_iff, has_draftOf_of_text h]
  refine ⟨decide_eq_false ha, ?_⟩
  cases a with
  | preset =>
    obtain ⟨p, hp, rfl⟩ := Option.map_eq_some_iff.mp h
    have hdraft : draftOf o (as ++ [.preset]) ps = { draftOf o as ps with preset := some p } := by
      simp [draftOf, hp]
    rw [hdraft]
    exact .preset (choose_toUTF8 (ofName?_presetName p))
  | pattern =>
    have hdraft :
        draftOf o (as ++ [.pattern]) ps = { draftOf o as ps with pattern := some text } := by
      have hp : o.pattern = some text := h
      simp [draftOf, hp]
    rw [hdraft]
    exact .pattern (textOf_toUTF8 text)
  | format =>
    obtain ⟨f, hf, rfl⟩ := Option.map_eq_some_iff.mp h
    have hdraft : draftOf o (as ++ [.format]) ps = { draftOf o as ps with format := some f } := by
      simp [draftOf, hf]
    rw [hdraft]
    exact .format (choose_toUTF8 (ofName?_formatName f))
  | _ => contradiction

theorem put_text_eq_ok_iff {text : String} {d : Draft} (h : o.text? a = some text) :
    (draftOf o as ps).put a text.toUTF8 = .ok d ↔ a ∉ as ∧ d = draftOf o (as ++ [a]) ps := by
  refine eq_ok_iff (put_text h) fun hput => ?_
  obtain ⟨hhas, -⟩ := Draft.put_eq_ok_iff.mp hput
  rw [has_draftOf_of_text h] at hhas
  exact of_decide_eq_false hhas

theorem has_draftOf_of_flag (h : o.flag a = true) :
    (draftOf o as ps).has a = decide (a ∈ as) := by
  cases a with
  | counts | noColor | verbose => rfl
  | _ => contradiction

/-- A flag is taken over unless it was before. -/
theorem switch_flag (h : o.flag a = true) (ha : a ∉ as) (full : Bool) :
    (draftOf o as ps).switch a full = .ok (draftOf o (as ++ [a]) ps) := by
  rw [Draft.switch_eq_ok_iff, has_draftOf_of_flag h]
  refine ⟨decide_eq_false ha, ?_⟩
  cases a with
  | counts =>
    have hdraft : draftOf o (as ++ [.counts]) ps = { draftOf o as ps with counts := true } := by
      simp [draftOf]
    rw [hdraft]
    exact .counts
  | noColor =>
    have hdraft : draftOf o (as ++ [.noColor]) ps = { draftOf o as ps with noColor := true } := by
      simp [draftOf]
    rw [hdraft]
    exact .noColor
  | verbose =>
    have hdraft : draftOf o (as ++ [.verbose]) ps = { draftOf o as ps with verbose := true } := by
      simp [draftOf]
    rw [hdraft]
    exact .verbose
  | _ => contradiction

theorem switch_flag_eq_ok_iff {full : Bool} {d : Draft} (h : o.flag a = true) :
    (draftOf o as ps).switch a full = .ok d ↔ a ∉ as ∧ d = draftOf o (as ++ [a]) ps := by
  refine eq_ok_iff (switch_flag h · full) fun hswitch => ?_
  obtain ⟨hhas, -⟩ := Draft.switch_eq_ok_iff.mp hswitch
  rw [has_draftOf_of_flag h] at hhas
  exact of_decide_eq_false hhas

/-- A path is taken over unless it is empty. -/
theorem put_path {path : ByteArray} (h : Argument.paths[ps.length]? = some a)
    (hpath : path.size ≠ 0) :
    (draftOf o as ps).put a path = .ok (draftOf o as (ps ++ [path])) := by
  have hpathOf (a : Argument) : pathOf a path = .ok path := if_neg hpath
  rw [Draft.put_eq_ok_iff]
  match ps, h with
  | [], h =>
    obtain rfl := Option.some.inj h
    exact ⟨rfl, .podsFile (hpathOf _)⟩
  | [pods], h =>
    obtain rfl := Option.some.inj h
    exact ⟨rfl, .logFile (hpathOf _)⟩
  | _ :: _ :: _, h => simp [Argument.paths] at h

theorem put_path_eq_ok_iff {path : ByteArray} {d : Draft}
    (h : Argument.paths[ps.length]? = some a) :
    (draftOf o as ps).put a path = .ok d ↔ path.size ≠ 0 ∧ d = draftOf o as (ps ++ [path]) := by
  refine eq_ok_iff (put_path h) fun hput hempty => ?_
  have hpathOf (a : Argument) (p : ByteArray) : pathOf a path ≠ .ok p := by
    rw [pathOf, if_pos hempty]
    exact nofun
  obtain ⟨-, hputs⟩ := Draft.put_eq_ok_iff.mp hput
  match ps, h with
  | [], h =>
    obtain rfl := Option.some.inj h
    cases hputs with
    | podsFile h => exact hpathOf _ _ h
    | flag h => contradiction
  | [_], h =>
    obtain rfl := Option.some.inj h
    cases hputs with
    | logFile h => exact hpathOf _ _ h
    | flag h => contradiction
  | _ :: _ :: _, h => simp [Argument.paths] at h

end Drafts

section Reading

namespace Reader

/-- A reader that has taken over some of the options and some paths. -/
def settledOn (o : Options) (as : List Argument) (ps : List ByteArray) (onlyPaths : Bool) :
    Reader where
  draft := draftOf o as ps
  onlyPaths := onlyPaths

variable {r r' : Reader} {words : List ByteArray}

theorem read_letter {c : Char} (honly : r.onlyPaths = false) (hletter : a.letter? = some c) :
    r.read ("-" ++ c.toString).toUTF8 = r.switch a false := by
  have hsingle : (r.switch a false).bind (readLetters · []) = r.switch a false := by
    cases r.switch a false <;> rfl
  rw [read_eq_ite, honly, if_neg Bool.false_ne_true]
  cases a with
  | verbose | help | version =>
    obtain rfl := Option.some.inj hletter
    exact hsingle
  | _ => contradiction

/-- A word for an option is read as the option. -/
theorem read_word (hw : o.Word a word) (honly : r.onlyPaths = false) :
    (∃ text, o.text? a = some text ∧ r.read word = r.put a text.toUTF8) ∨
      o.flag a = true ∧ ∃ full, r.read word = r.switch a full := by
  cases hw with
  | value hname htext =>
    refine .inl ⟨_, htext, read_value honly hname ?_ _⟩
    cases a with
    | preset | pattern | format => rfl
    | _ => contradiction
  | name hname hflag =>
    refine .inr ⟨hflag, true, read_flag honly hname ?_⟩
    cases a with
    | counts | noColor | verbose => rfl
    | _ => contradiction
  | letter hletter hflag => exact .inr ⟨hflag, false, read_letter honly hletter⟩

/-- A word that does not begin with a dash is no option, nor is any word after two dashes. -/
theorem read_path {path : ByteArray} (h : r.onlyPaths = true ∨ Plain path) :
    r.read path = r.readPlain path := by
  rw [read_eq_ite]
  cases honly : r.onlyPaths with
  | true => rfl
  | false =>
    have hplain : path.data.toList.head? ≠ some 0x2D := by
      rw [honly] at h
      exact h.resolve_left Bool.false_ne_true
    rw [if_neg Bool.false_ne_true]
    unfold readOpen
    split
    next hword => exact (hplain (congrArg List.head? hword)).elim
    next hword => exact (hplain (congrArg List.head? hword)).elim
    next hword => exact (hplain (congrArg List.head? hword)).elim
    · rfl

theorem nextPath?_settledOn (onlyPaths : Bool) :
    (settledOn o as ps onlyPaths).nextPath? = Argument.paths[ps.length]? := by
  match ps with
  | [] => rfl
  | [_] => rfl
  | _ :: _ :: rest => simp [nextPath?, settledOn, draftOf, Draft.has, Argument.paths]

/-- What has been taken over: each option once, and at most two paths, none of which is empty. -/
structure Admissible (as : List Argument) (ps : List ByteArray) : Prop where
  nodup : as.Nodup
  length_le : ps.length ≤ 2
  size_ne : ∀ path ∈ ps, path.size ≠ 0

theorem Admissible.of_append_options {bs : List Argument} (h : Admissible (as ++ bs) ps) :
    Admissible as ps :=
  ⟨h.nodup.of_append_left, h.length_le, h.size_ne⟩

theorem Admissible.of_append_paths {qs : List ByteArray} (h : Admissible as (ps ++ qs)) :
    Admissible as ps := by
  have hlength := h.length_le
  rw [List.length_append] at hlength
  exact ⟨h.nodup, by omega, fun path hpath => h.size_ne path (List.mem_append_left qs hpath)⟩

theorem admissible_option (h : Admissible as ps) : Admissible (as ++ [a]) ps ↔ a ∉ as := by
  obtain ⟨hnodup, hlength, hsize⟩ := h
  have hiff : (as ++ [a]).Nodup ↔ a ∉ as := by
    rw [← List.concat_eq_append, List.nodup_concat, and_iff_left hnodup]
  rw [← hiff]
  exact ⟨fun h => h.nodup, fun h => ⟨h, hlength, hsize⟩⟩

theorem admissible_path {path : ByteArray} (h : Admissible as ps) :
    Admissible as (ps ++ [path]) ↔ ps.length < 2 ∧ path.size ≠ 0 := by
  obtain ⟨hnodup, -, hsize⟩ := h
  constructor
  · rintro ⟨-, hlength, hsize⟩
    rw [List.length_append, List.length_singleton] at hlength
    exact ⟨by omega, hsize path (by simp)⟩
  · rintro ⟨hlength, hpath⟩
    refine ⟨hnodup, ?_, ?_⟩
    · rw [List.length_append, List.length_singleton]
      omega
    · intro path' hmem
      obtain hmem | hmem := List.mem_append.mp hmem
      · exact hsize path' hmem
      · exact List.mem_singleton.mp hmem ▸ hpath

theorem not_awaitsValue (h : ∀ a, r.waiting ≠ some (a, none)) : ¬ r.AwaitsValue := by
  rintro ⟨-, a, hwaiting⟩
  exact h a hwaiting

theorem read_settledOn_word (hw : o.Word a word) (r' : Reader) :
    (settledOn o as ps false).read word = .ok r' ↔
      a ∉ as ∧ r' = settledOn o (as ++ [a]) ps false := by
  obtain ⟨text, htext, hread⟩ | ⟨hflag, full, hread⟩ :=
    read_word (r := settledOn o as ps false) hw rfl
  · rw [hread]
    exact map_eq_ok_iff fun _ => put_text_eq_ok_iff htext
  · rw [hread]
    exact map_eq_ok_iff fun _ => switch_flag_eq_ok_iff hflag

/-- A word for an option is taken over unless there was one for the option before. -/
theorem run_word (hw : o.Word a word) (h : Admissible as ps) :
    (settledOn o as ps false).run (word :: words) = .ok o' ↔
      Admissible (as ++ [a]) ps ∧ (settledOn o (as ++ [a]) ps false).run words = .ok o' := by
  rw [run_cons, admissible_option h]
  exact bind_eq_ok_iff (read_settledOn_word hw)

/-- A path is taken over unless it is empty or there were two before. -/
theorem run_path {path : ByteArray} {onlyPaths : Bool} (hpath : onlyPaths = true ∨ Plain path)
    (h : Admissible as ps) :
    (settledOn o as ps onlyPaths).run (path :: words) = .ok o' ↔
      Admissible as (ps ++ [path]) ∧
        (settledOn o as (ps ++ [path]) onlyPaths).run words = .ok o' := by
  have hread : (settledOn o as ps onlyPaths).read path =
      (settledOn o as ps onlyPaths).readPath path := by
    rw [read_path hpath, readPlain_of_not_awaitsValue (not_awaitsValue (by simp [settledOn]))]
  rw [run_cons, hread, readPath, nextPath?_settledOn, admissible_path h]
  cases hnext : Argument.paths[ps.length]? with
  | none =>
    have hlength : ¬ ps.length < 2 := by
      have hlen : Argument.paths.length = 2 := rfl
      rw [← hlen]
      exact Nat.not_lt.mpr (List.getElem?_eq_none_iff.mp hnext)
    refine iff_of_false ?_ fun h => hlength h.1.1
    intro hrun
    contradiction
  | some a =>
    have hlength : ps.length < 2 := (List.getElem?_eq_some_iff.mp hnext).1
    have hsettle (r₁ : Reader) :
        settle { settledOn o as ps onlyPaths with waiting := some (a, some path) } = .ok r₁ ↔
          path.size ≠ 0 ∧ r₁ = settledOn o as (ps ++ [path]) onlyPaths :=
      map_eq_ok_iff fun _ => put_path_eq_ok_iff hnext
    change
      Reader.run { settledOn o as ps onlyPaths with waiting := some (a, some path) } words = _ ↔ _
    -- the path waits until the next word, and may as well be taken over at once
    rw [run_settle (not_awaitsValue (by simp)), and_iff_right hlength, ← bind_ok]
    exact bind_eq_ok_iff hsettle

/-- Words for options and paths among them. -/
theorem run_interleaved {bs : List Argument} {ws paths line rest : List ByteArray}
    (hline : Interleaved ws paths line) (hplain : ∀ path ∈ paths, Plain path)
    (hws : List.Forall₂ o.Word bs ws) (h : Admissible as ps) :
    (settledOn o as ps false).run (line ++ rest) = .ok o' ↔
      Admissible (as ++ bs) (ps ++ paths) ∧
        (settledOn o (as ++ bs) (ps ++ paths) false).run rest = .ok o' := by
  induction hline generalizing as ps bs with
  | nil =>
    cases hws
    simp only [List.append_nil, List.nil_append, h, true_and]
  | @left w ws paths line _ ih =>
    obtain _ | @⟨b, _, bs, _, hw, hws⟩ := hws
    rw [List.cons_append, run_word hw h, List.append_cons as b bs]
    constructor
    · rintro ⟨h', hrun⟩
      exact (ih hplain hws h').mp hrun
    · rintro ⟨hall, hrun⟩
      have h' : Admissible (as ++ [b]) ps := hall.of_append_options.of_append_paths
      exact ⟨h', (ih hplain hws h').mpr ⟨hall, hrun⟩⟩
  | @right path ws paths line _ ih =>
    obtain ⟨hfirst, hplain⟩ := List.forall_mem_cons.mp hplain
    rw [List.cons_append, run_path (.inr hfirst) h, List.append_cons ps path paths]
    constructor
    · rintro ⟨h', hrun⟩
      exact (ih hplain hws h').mp hrun
    · rintro ⟨hall, hrun⟩
      have h' : Admissible as (ps ++ [path]) := hall.of_append_options.of_append_paths
      exact ⟨h', (ih hplain hws h').mpr ⟨hall, hrun⟩⟩

/-- Paths after two dashes. -/
theorem run_paths {paths : List ByteArray} (h : Admissible as ps) :
    (settledOn o as ps true).run paths = .ok o' ↔
      Admissible as (ps ++ paths) ∧ (settledOn o as (ps ++ paths) true).complete = .ok o' := by
  induction paths generalizing ps with
  | nil =>
    rw [List.append_nil]
    exact ⟨fun hrun => ⟨h, hrun⟩, fun hrun => hrun.2⟩
  | cons path paths ih =>
    rw [run_path (.inl rfl) h, List.append_cons ps path paths]
    constructor
    · rintro ⟨h', hrun⟩
      exact (ih h').mp hrun
    · rintro ⟨hall, hrun⟩
      have h' : Admissible as (ps ++ [path]) := hall.of_append_paths
      exact ⟨h', (ih h').mpr ⟨hall, hrun⟩⟩

end Reader

/-- A line is read to the end if each option is given once and no path is empty, nor is there a
third one. -/
theorem parse_line {bs : List Argument} {ws paths line : List ByteArray}
    (hline : Line ws paths line) (hws : List.Forall₂ o.Word bs ws) :
    parse line = .ok o' ↔ Reader.Admissible bs paths ∧
      (Reader.settledOn o bs paths false).complete = .ok o' := by
  have hstart : Reader.Admissible [] [] := ⟨.nil, by simp, nofun⟩
  have hempty : parse line = (Reader.settledOn o [] [] false).run line := rfl
  rw [hempty]
  cases hline with
  | plain h hplain =>
    rw [← List.append_nil line, Reader.run_interleaved h hplain hws hstart]
    exact Iff.rfl
  | @dashes first line h hplain rest =>
    rw [Reader.run_interleaved h hplain hws hstart]
    simp only [List.nil_append]
    constructor
    · rintro ⟨hfirst, hrun⟩
      exact (Reader.run_paths hfirst).mp hrun
    · rintro ⟨hall, hcomplete⟩
      have hfirst : Reader.Admissible bs first := hall.of_append_paths
      exact ⟨hfirst, (Reader.run_paths hfirst).mpr ⟨hall, hcomplete⟩⟩

end Reading

section Refusals

variable {α β : Type} {x : Except Refusal α} {r : Reader}

def UsageOnly (x : Except Refusal α) : Prop := ∀ e, x = .error e → ∃ u, e = .usage u

theorem UsageOnly.ok (a : α) : UsageOnly (.ok a : Except Refusal α) := nofun

theorem UsageOnly.usage (u : UsageError) : UsageOnly (.error (.usage u) : Except Refusal α) := by
  rintro e ⟨⟩
  exact ⟨u, rfl⟩

theorem UsageOnly.bind {f : α → Except Refusal β} (hx : UsageOnly x)
    (hf : ∀ a, x = .ok a → UsageOnly (f a)) : UsageOnly (x.bind f) := by
  cases x with
  | error e =>
    rintro _ ⟨⟩
    exact hx e rfl
  | ok a => exact hf a rfl

theorem UsageOnly.map {f : α → β} (hx : UsageOnly x) : UsageOnly (x.map f) := by
  cases x with
  | error e =>
    rintro _ ⟨⟩
    exact hx e rfl
  | ok a => exact .ok (f a)

theorem usageOnly_textOf (value : ByteArray) : UsageOnly (textOf value) := by
  unfold textOf
  split
  · exact .ok _
  · exact .usage _

theorem usageOnly_choose (a : Argument) (named? : String → Option α) (value : ByteArray) :
    UsageOnly (choose a named? value) := by
  refine (usageOnly_textOf value).bind fun text _ => ?_
  split
  · exact .ok _
  · exact .usage _

theorem usageOnly_pathOf (a : Argument) (value : ByteArray) : UsageOnly (pathOf a value) := by
  unfold pathOf
  split
  · exact .usage _
  · exact .ok _

theorem usageOnly_put_draft (d : Draft) (a : Argument) (value : ByteArray) :
    UsageOnly (d.put a value) := by
  unfold Draft.put
  cases d.has a with
  | true => exact .usage _
  | false =>
    cases a with
    | podsFile | logFile => exact (usageOnly_pathOf _ _).bind fun _ _ => .ok _
    | preset | format => exact (usageOnly_choose _ _ _).bind fun _ _ => .ok _
    | pattern => exact (usageOnly_textOf _).bind fun _ _ => .ok _
    | counts | noColor | verbose | help | version => exact .ok _

/-- Asking for help or for the version is no flag. -/
theorem usageOnly_switch_draft (d : Draft) (ha : o.flag a = true) (full : Bool) :
    UsageOnly (d.switch a full) := by
  unfold Draft.switch
  cases d.has a with
  | true => exact .usage _
  | false =>
    cases a with
    | counts | noColor | verbose => exact .ok _
    | _ => contradiction

theorem usageOnly_settle (r : Reader) : UsageOnly r.settle := by
  unfold Reader.settle
  split
  · exact .ok _
  · exact .usage _
  · exact (usageOnly_put_draft _ _ _).map

theorem usageOnly_readPlain (r : Reader) (word : ByteArray) : UsageOnly (r.readPlain word) := by
  unfold Reader.readPlain
  split
  · exact .ok _
  split
  · exact (usageOnly_settle r).map
  · exact .usage _

theorem usageOnly_read_path (h : r.onlyPaths = true ∨ Plain word) : UsageOnly (r.read word) := by
  rw [Reader.read_path h]
  exact usageOnly_readPlain r word

theorem usageOnly_read_word (hw : o.Word a word) (r : Reader) : UsageOnly (r.read word) := by
  cases honly : r.onlyPaths with
  | true => exact usageOnly_read_path (.inl honly)
  | false =>
    obtain ⟨text, -, hread⟩ | ⟨hflag, full, hread⟩ := Reader.read_word hw honly
    · rw [hread]
      exact (usageOnly_settle r).bind fun r _ => (usageOnly_put_draft _ _ _).map
    · rw [hread]
      exact (usageOnly_settle r).bind fun r _ => (usageOnly_switch_draft _ hflag full).map

theorem usageOnly_finish (r : Reader) : UsageOnly r.finish := by
  rw [Reader.finish_eq_bind]
  refine (usageOnly_settle r).bind fun r _ => ?_
  unfold Reader.complete
  split
  · exact .ok _
  · exact .usage _

theorem usageOnly_run_paths (h : r.onlyPaths = true) (paths : List ByteArray) :
    UsageOnly (r.run paths) := by
  induction paths generalizing r with
  | nil => exact usageOnly_finish r
  | cons path paths ih =>
    rw [Reader.run_cons]
    refine (usageOnly_read_path (.inl h)).bind fun r' hread => ih ?_
    rw [Reader.read_path (.inl h)] at hread
    exact (Reader.keeps_readPlain path r r' hread).onlyPaths.trans h

theorem usageOnly_run_dashes (r : Reader) (paths : List ByteArray) :
    UsageOnly (r.run ("--".toUTF8 :: paths)) := by
  cases honly : r.onlyPaths with
  | true => exact usageOnly_run_paths honly _
  | false =>
    have hread : r.read "--".toUTF8 = .ok { r with onlyPaths := true } := by
      rw [Reader.read_eq_ite, honly]
      rfl
    rw [Reader.run_cons, hread]
    exact usageOnly_run_paths rfl paths

theorem usageOnly_run_interleaved {bs : List Argument} {ws paths line rest : List ByteArray}
    (hline : Interleaved ws paths line) (hplain : ∀ path ∈ paths, Plain path)
    (hws : List.Forall₂ o.Word bs ws) (hrest : ∀ r : Reader, UsageOnly (r.run rest)) (r : Reader) :
    UsageOnly (r.run (line ++ rest)) := by
  induction hline generalizing r bs with
  | nil => exact hrest r
  | left _ ih =>
    obtain _ | ⟨hw, hws⟩ := hws
    rw [List.cons_append, Reader.run_cons]
    exact (usageOnly_read_word hw r).bind fun r _ => ih hplain hws r
  | right _ ih =>
    obtain ⟨hfirst, hplain⟩ := List.forall_mem_cons.mp hplain
    rw [List.cons_append, Reader.run_cons]
    exact (usageOnly_read_path (.inr hfirst)).bind fun r _ => ih hplain hws r

/-- A line of words for options and of paths never asks for help. -/
theorem usageOnly_parse {bs : List Argument} {ws paths line : List ByteArray}
    (hline : Line ws paths line) (hws : List.Forall₂ o.Word bs ws) : UsageOnly (parse line) := by
  rw [parse_eq_run]
  cases hline with
  | plain h hplain =>
    have hfinish (r : Reader) : UsageOnly (r.run []) := usageOnly_finish r
    rw [← List.append_nil line]
    exact usageOnly_run_interleaved h hplain hws hfinish {}
  | dashes h hplain rest =>
    exact usageOnly_run_interleaved h hplain hws (usageOnly_run_dashes · rest) {}

end Refusals

section Lines

theorem mem_given_iff (ha : a ∈ Argument.options) :
    a ∈ o.given ↔ (o.text? a).isSome = true ∨ o.flag a = true := by
  rw [Options.given, List.mem_filter, and_iff_right ha, Bool.or_eq_true]

theorem mem_given_of_word (hw : o.Word a word) : a ∈ o.given := by
  have hset : (o.text? a).isSome = true ∨ o.flag a = true := by
    cases hw with
    | value hname htext => exact .inl (Option.isSome_of_eq_some htext)
    | name hname hflag => exact .inr hflag
    | letter hletter hflag => exact .inr hflag
  have hoption : a ∈ Argument.options := by
    cases a with
    | podsFile | logFile => simp [Options.text?, Options.flag] at hset
    | _ => decide
  exact (mem_given_iff hoption).mpr hset

theorem nodup_given (o : Options) : o.given.Nodup :=
  List.Nodup.filter _ (by decide)

/-- When all options that are set have been taken over, they are as they were set. -/
theorem draftOf_of_perm_given (has : as.Perm o.given) (ps : List ByteArray) :
    draftOf o as ps = ⟨ps[0]?, ps[1]?, o.preset, o.pattern, o.counts, o.format, o.noColor,
      o.verbose⟩ := by
  have hmem {a : Argument} (ha : a ∈ Argument.options) :
      a ∈ as ↔ (o.text? a).isSome = true ∨ o.flag a = true := by
    rw [has.mem_iff, mem_given_iff ha]
  have hvalue {α : Type} {a : Argument} {x : Option α} (h : a ∈ as ↔ x.isSome = true) :
      (if a ∈ as then x else none) = x := by
    cases x with
    | none => exact ite_self none
    | some x => exact if_pos (h.mpr rfl)
  have hflag {a : Argument} {b : Bool} (h : a ∈ as ↔ b = true) : decide (a ∈ as) = b := by
    cases b with
    | false => exact decide_eq_false fun ha => Bool.false_ne_true (h.mp ha)
    | true => exact decide_eq_true (h.mpr rfl)
  have hpreset : .preset ∈ as ↔ o.preset.isSome = true := by
    simpa [Options.text?, Options.flag] using hmem (show .preset ∈ Argument.options by decide)
  have hpattern : .pattern ∈ as ↔ o.pattern.isSome = true := by
    simpa [Options.text?, Options.flag] using hmem (show .pattern ∈ Argument.options by decide)
  have hformat : .format ∈ as ↔ o.format.isSome = true := by
    simpa [Options.text?, Options.flag] using hmem (show .format ∈ Argument.options by decide)
  have hcounts : .counts ∈ as ↔ o.counts = true := by
    simpa [Options.text?, Options.flag] using hmem (show .counts ∈ Argument.options by decide)
  have hnoColor : .noColor ∈ as ↔ o.noColor = true := by
    simpa [Options.text?, Options.flag] using hmem (show .noColor ∈ Argument.options by decide)
  have hverbose : .verbose ∈ as ↔ o.verbose = true := by
    simpa [Options.text?, Options.flag] using hmem (show .verbose ∈ Argument.options by decide)
  unfold draftOf
  rw [hvalue hpreset, hvalue hpattern, hvalue hformat, hflag hcounts, hflag hnoColor,
    hflag hverbose]

theorem complete_of_perm_given (has : as.Perm o.given) :
    (Reader.settledOn o as [o.podsFile, o.logFile] false).complete = .ok o := by
  unfold Reader.complete Reader.settledOn
  rw [draftOf_of_perm_given has]
  rfl

theorem length_of_complete (h : Reader.Admissible as ps)
    (hcomplete : (Reader.settledOn o as ps false).complete = .ok o') : ps.length = 2 := by
  have hle := h.length_le
  match ps with
  | [] => contradiction
  | [_] => contradiction
  | [_, _] => rfl
  | _ :: _ :: _ :: _ => simp at hle

/-- A line that gives an option twice, or does not give two paths, is refused. -/
theorem refused {bs : List Argument} {ws paths line : List ByteArray}
    (hline : Line ws paths line) (hws : List.Forall₂ o.Word bs ws)
    (hfail : ¬ (bs.Nodup ∧ paths.length = 2)) :
    ∃ e, parse line = .error (.usage e) ∧ (Refusal.usage e).exitCode = 2 := by
  cases hparse : parse line with
  | error e =>
    obtain ⟨u, rfl⟩ := usageOnly_parse hline hws e hparse
    exact ⟨u, rfl, rfl⟩
  | ok o' =>
    obtain ⟨hall, hcomplete⟩ := (parse_line hline hws).mp hparse
    exact absurd ⟨hall.nodup, length_of_complete hall hcomplete⟩ hfail

/-- A command line decodes to the options that it was written for: with the paths after two dashes
whatever they look like, and with each of them before or after the dashes, or anywhere, if it does
not begin with a dash. With any other number of paths, or with one more word for an option that is
set already, it is refused. -/
theorem parse_written {ws : List ByteArray} (hpods : o.podsFile.size ≠ 0)
    (hlog : o.logFile.size ≠ 0) (hws : o.Words ws) :
    parse (ws ++ ["--".toUTF8, o.podsFile, o.logFile]) = .ok o ∧
      (∀ line, Line ws [o.podsFile, o.logFile] line → parse line = .ok o) ∧
      (∀ paths line, Line ws paths line → paths.length ≠ 2 →
        ∃ e, parse line = .error (.usage e) ∧ (Refusal.usage e).exitCode = 2) ∧
      ∀ before after a word paths line, before ++ after = ws → o.Word a word →
        Line (before ++ word :: after) paths line →
          ∃ e, parse line = .error (.usage e) ∧ (Refusal.usage e).exitCode = 2 := by
  obtain ⟨as, hperm, hwords⟩ := hws
  have hnodup : as.Nodup := hperm.nodup_iff.mpr (nodup_given o)
  have hdecodes (line : List ByteArray) (hline : Line ws [o.podsFile, o.logFile] line) :
      parse line = .ok o := by
    rw [parse_line hline hwords]
    have hsize : ∀ path ∈ [o.podsFile, o.logFile], path.size ≠ 0 :=
      List.forall_mem_cons.mpr ⟨hpods, List.forall_mem_singleton.mpr hlog⟩
    exact ⟨⟨hnodup, Nat.le_refl 2, hsize⟩, complete_of_perm_given hperm⟩
  refine ⟨hdecodes _ (.dashes (.all_left ws) nofun _), hdecodes, ?_, ?_⟩
  · intro paths line hline hlength
    exact refused hline hwords fun h => hlength h.2
  · rintro before after a word paths line rfl hword hline
    have hbefore := List.forall₂_take_append as before after hwords
    have hafter := List.forall₂_drop_append as before after hwords
    refine refused hline (List.rel_append hbefore (.cons hword hafter)) fun h => ?_
    have hmem : a ∈ as := hperm.mem_iff.mpr (mem_given_of_word hword)
    have hnot := List.nodup_middle.mp h.1
    rw [List.take_append_drop] at hnot
    exact (List.nodup_cons.mp hnot).1 hmem

/-- A pattern and paths that look like options. Without one of the paths, or with a second word for
one of the options, the line is refused. -/
theorem parse_written_dashes :
    let o : Options :=
      ⟨"-v".toUTF8, "--".toUTF8, some .version, some "-=", false, none, false, true⟩
    let ws := [("-" ++ 'v'.toString).toUTF8, ("--" ++ "pattern" ++ "=" ++ "-=").toUTF8,
      ("--" ++ "preset" ++ "=" ++ "version").toUTF8]
    o.podsFile.size ≠ 0 ∧ o.logFile.size ≠ 0 ∧ o.Words ws ∧
      parse (ws ++ ["--".toUTF8, o.podsFile, o.logFile]) = .ok o ∧
      (∃ e, parse (ws ++ ["--".toUTF8, o.podsFile]) = .error (.usage e) ∧
        (Refusal.usage e).exitCode = 2) ∧
      ∃ e, parse (("--" ++ "verbose").toUTF8 :: ws ++ ["--".toUTF8, o.podsFile, o.logFile]) =
        .error (.usage e) ∧ (Refusal.usage e).exitCode = 2 := by
  intro o ws
  have hpods : o.podsFile.size ≠ 0 := by decide
  have hlog : o.logFile.size ≠ 0 := by decide
  have hperm : [.verbose, .pattern, .preset].Perm o.given := by decide
  have hws : o.Words ws :=
    ⟨_, hperm, .cons (.letter rfl rfl) (.cons (.value rfl rfl) (.cons (.value rfl rfl) .nil))⟩
  obtain ⟨hdecodes, -, hcount, htwice⟩ := parse_written hpods hlog hws
  refine ⟨hpods, hlog, hws, hdecodes, ?_, ?_⟩
  · exact hcount [o.podsFile] _ (.dashes (.all_left ws) nofun _) (by decide)
  · exact htwice [] ws .verbose _ [o.podsFile, o.logFile] _ rfl (.name rfl rfl)
      (.dashes (.all_left _) nofun _)

end Lines

end CommandLine

end RollCall
