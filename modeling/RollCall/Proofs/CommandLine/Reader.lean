import RollCall.CommandLine.Reader
import RollCall.Proofs.Except
import RollCall.Proofs.Text.Lines

/-! A pattern on the command line. Words that give no pattern are read in the same way whether or
not one was given before them, and it makes no difference where among them it is given. -/
namespace RollCall.CommandLine

theorem textOf_toUTF8 (text : String) : textOf text.toUTF8 = .ok text := by
  rw [textOf, Lines.fromUTF8?_toUTF8]

namespace Draft

variable {d d' : Draft} {a : Argument} {value : ByteArray} {full : Bool}

inductive Puts (d : Draft) : Argument → ByteArray → Draft → Prop
  | podsFile {value path : ByteArray} (h : pathOf .podsFile value = .ok path) :
      Puts d .podsFile value { d with podsFile := some path }
  | logFile {value path : ByteArray} (h : pathOf .logFile value = .ok path) :
      Puts d .logFile value { d with logFile := some path }
  | preset {value : ByteArray} {preset : Preset}
      (h : choose .preset Preset.ofName? value = .ok preset) :
      Puts d .preset value { d with preset := some preset }
  | pattern {value : ByteArray} {text : String} (h : textOf value = .ok text) :
      Puts d .pattern value { d with pattern := some text }
  | format {value : ByteArray} {format : OutputFormat}
      (h : choose .format OutputFormat.ofName? value = .ok format) :
      Puts d .format value { d with format := some format }
  | flag {a : Argument} {value : ByteArray} (h : a.takesValue = false) : Puts d a value d

inductive Switches (d : Draft) : Argument → Draft → Prop
  | counts : Switches d .counts { d with counts := true }
  | noColor : Switches d .noColor { d with noColor := true }
  | verbose : Switches d .verbose { d with verbose := true }
  | valued {a : Argument} (h : a.takesValue = true) : Switches d a d

theorem put_eq_ok_iff :
    d.put a value = .ok d' ↔ d.has a = false ∧ d.Puts a value d' := by
  unfold put
  cases hhas : d.has a with
  | true => exact iff_of_false nofun fun h => nomatch h.1
  | false =>
    constructor
    · intro h
      refine ⟨rfl, ?_⟩
      cases a with
      | podsFile =>
        obtain ⟨path, hv, h⟩ := bind_ok.mp h
        exact Except.ok.inj h ▸ .podsFile hv
      | logFile =>
        obtain ⟨path, hv, h⟩ := bind_ok.mp h
        exact Except.ok.inj h ▸ .logFile hv
      | preset =>
        obtain ⟨preset, hv, h⟩ := bind_ok.mp h
        exact Except.ok.inj h ▸ .preset hv
      | pattern =>
        obtain ⟨text, hv, h⟩ := bind_ok.mp h
        exact Except.ok.inj h ▸ .pattern hv
      | format =>
        obtain ⟨format, hv, h⟩ := bind_ok.mp h
        exact Except.ok.inj h ▸ .format hv
      | counts | noColor | verbose | help | version => exact Except.ok.inj h ▸ .flag rfl
    · rintro ⟨-, h⟩
      cases h with
      | podsFile h | logFile h | preset h | pattern h | format h => exact bind_ok.mpr ⟨_, h, rfl⟩
      | flag h =>
        cases a with
        | podsFile | logFile | preset | pattern | format => contradiction
        | counts | noColor | verbose | help | version => rfl

theorem switch_eq_ok_iff :
    d.switch a full = .ok d' ↔ d.has a = false ∧ d.Switches a d' := by
  unfold switch
  cases hhas : d.has a with
  | true => exact iff_of_false nofun fun h => nomatch h.1
  | false =>
    constructor
    · intro h
      refine ⟨rfl, ?_⟩
      cases a with
      | counts => exact Except.ok.inj h ▸ .counts
      | noColor => exact Except.ok.inj h ▸ .noColor
      | verbose => exact Except.ok.inj h ▸ .verbose
      | help | version => contradiction
      | podsFile | logFile | preset | pattern | format => exact Except.ok.inj h ▸ .valued rfl
    · rintro ⟨-, h⟩
      cases h with
      | counts | noColor | verbose => rfl
      | valued h =>
        cases a with
        | podsFile | logFile | preset | pattern | format => rfl
        | counts | noColor | verbose | help | version => contradiction

def withPattern (d : Draft) (p : String) : Draft := { d with pattern := some p }

theorem has_withPattern (ha : a ≠ .pattern) (p : String) : (d.withPattern p).has a = d.has a := by
  cases a with
  | pattern => contradiction
  | _ => rfl

theorem isSome_of_put_pattern (h : d.put .pattern value = .ok d') : d'.pattern.isSome = true := by
  obtain ⟨-, h⟩ := put_eq_ok_iff.mp h
  cases h with
  | pattern => rfl
  | flag h => contradiction

/-- Taking over any other value leaves the pattern as it is and does not look at it. -/
theorem put_withPattern (ha : a ≠ .pattern) (h : d.put a value = .ok d') (p : String) :
    d'.pattern = d.pattern ∧ (d.withPattern p).put a value = .ok (d'.withPattern p) := by
  rw [put_eq_ok_iff] at h ⊢
  rw [has_withPattern ha]
  obtain ⟨hhas, h⟩ := h
  cases h with
  | pattern h => contradiction
  | podsFile h => exact ⟨rfl, hhas, .podsFile h⟩
  | logFile h => exact ⟨rfl, hhas, .logFile h⟩
  | preset h => exact ⟨rfl, hhas, .preset h⟩
  | format h => exact ⟨rfl, hhas, .format h⟩
  | flag h => exact ⟨rfl, hhas, .flag h⟩

theorem switch_withPattern (ha : a ≠ .pattern) (h : d.switch a full = .ok d') (p : String) :
    d'.pattern = d.pattern ∧ (d.withPattern p).switch a full = .ok (d'.withPattern p) := by
  rw [switch_eq_ok_iff] at h ⊢
  rw [has_withPattern ha]
  obtain ⟨hhas, h⟩ := h
  cases h with
  | counts => exact ⟨rfl, hhas, .counts⟩
  | noColor => exact ⟨rfl, hhas, .noColor⟩
  | verbose => exact ⟨rfl, hhas, .verbose⟩
  | valued h => exact ⟨rfl, hhas, .valued h⟩

/-- A value makes its own argument count as given, and no other path. -/
theorem has_put {b : Argument} (hb : b ∈ Argument.paths) (h : d.put a value = .ok d') :
    d'.has b = (d.has b || decide (a = b)) := by
  obtain ⟨-, hputs⟩ := put_eq_ok_iff.mp h
  have hb : b = .podsFile ∨ b = .logFile := by simpa [Argument.paths] using hb
  rcases hb with rfl | rfl
  · cases hputs with
    | podsFile hv => simp [has]
    | logFile hv | preset hv | pattern hv | format hv => simp [has]
    | flag ht =>
      have ha : a ≠ .podsFile := by
        rintro rfl
        contradiction
      simp [ha]
  · cases hputs with
    | logFile hv => simp [has]
    | podsFile hv | preset hv | pattern hv | format hv => simp [has]
    | flag ht =>
      have ha : a ≠ .logFile := by
        rintro rfl
        contradiction
      simp [ha]

end Draft

namespace Reader

variable {r r' r₁ : Reader} {a : Argument} {p : String} {value : ByteArray} {full : Bool}
  {f g : Reader → Except Refusal Reader}

def withPattern (r : Reader) (p : String) : Reader := { r with draft := r.draft.withPattern p }

/-- A pattern was taken over, or waits to be. -/
def HasPattern (r : Reader) : Prop :=
  r.draft.pattern.isSome = true ∨ ∃ value, r.waiting = some (.pattern, value)

/-- If no pattern is given by the end of a step, none was given before it, and the step goes the
same way from a reader that has one. -/
def Ignores (p : String) (f : Reader → Except Refusal Reader) : Prop :=
  ∀ r r', f r = .ok r' → ¬ r'.HasPattern →
    ¬ r.HasPattern ∧ f (r.withPattern p) = .ok (r'.withPattern p)

theorem Ignores.error (e : Refusal) : Ignores p fun _ => .error e := by
  intro r r' h
  contradiction

theorem Ignores.ok : Ignores p .ok := by
  intro r r' h hr'
  obtain rfl := Except.ok.inj h
  exact ⟨hr', rfl⟩

theorem Ignores.bind (hf : Ignores p f) (hg : Ignores p g) : Ignores p fun r => (f r).bind g := by
  intro r r' h hr'
  obtain ⟨r₁, hr₁, h⟩ := bind_ok.mp h
  obtain ⟨hr₁', hg'⟩ := hg r₁ r' h hr'
  obtain ⟨hr, hf'⟩ := hf r r₁ hr₁ hr₁'
  exact ⟨hr, bind_ok.mpr ⟨r₁.withPattern p, hf', hg'⟩⟩

theorem ignores_put_draft (a : Argument) (value : ByteArray) :
    Ignores p fun r => (r.draft.put a value).map fun d => { r with draft := d } := by
  intro r r' h hr'
  obtain ⟨d', hd', rfl⟩ := map_ok.mp h
  have ha : a ≠ .pattern := by
    rintro rfl
    exact hr' (Or.inl (Draft.isSome_of_put_pattern hd'))
  obtain ⟨hpattern, hput⟩ := Draft.put_withPattern ha hd' p
  refine ⟨fun hr => hr' ?_, map_ok.mpr ⟨d'.withPattern p, hput, rfl⟩⟩
  unfold HasPattern at hr ⊢
  rwa [hpattern]

theorem ignores_switch_draft (ha : a ≠ .pattern) (full : Bool) :
    Ignores p fun r => (r.draft.switch a full).map fun d => { r with draft := d } := by
  intro r r' h hr'
  obtain ⟨d', hd', rfl⟩ := map_ok.mp h
  obtain ⟨hpattern, hswitch⟩ := Draft.switch_withPattern ha hd' p
  refine ⟨fun hr => hr' ?_, map_ok.mpr ⟨d'.withPattern p, hswitch, rfl⟩⟩
  unfold HasPattern at hr ⊢
  rwa [hpattern]

/-- What waits is taken over before the next step. -/
theorem waiting_of_settle (h : r.settle = .ok r') :
    r'.waiting = none ∧ r'.onlyPaths = r.onlyPaths := by
  unfold settle at h
  split at h
  next hwaiting =>
    obtain rfl := Except.ok.inj h
    exact ⟨hwaiting, rfl⟩
  next => contradiction
  next =>
    obtain ⟨d', -, rfl⟩ := map_ok.mp h
    exact ⟨rfl, rfl⟩

theorem ignores_settle : Ignores p settle := by
  intro r r' h hr'
  obtain ⟨draft, waiting, onlyPaths⟩ := r
  cases waiting with
  | none =>
    obtain rfl := Except.ok.inj h
    exact ⟨hr', rfl⟩
  | some w =>
    obtain ⟨a, _ | value⟩ := w
    · contradiction
    · obtain ⟨d', hd', rfl⟩ := map_ok.mp h
      have ha : a ≠ .pattern := by
        rintro rfl
        exact hr' (Or.inl (Draft.isSome_of_put_pattern hd'))
      obtain ⟨hpattern, hput⟩ := Draft.put_withPattern ha hd' p
      refine ⟨?_, map_ok.mpr ⟨d'.withPattern p, hput, rfl⟩⟩
      rintro (hdraft | ⟨value', hwaiting⟩)
      · exact hr' (Or.inl (by rw [← hdraft, hpattern]))
      · obtain ⟨rfl, -⟩ := Prod.mk.inj (Option.some.inj hwaiting)
        contradiction

theorem ignores_put (a : Argument) (value : ByteArray) : Ignores p (put · a value) :=
  ignores_settle.bind (ignores_put_draft a value)

theorem ignores_switch (ha : a ≠ .pattern) (full : Bool) : Ignores p (switch · a full) :=
  ignores_settle.bind (ignores_switch_draft ha full)

theorem ignores_await (a : Argument) (value : Option ByteArray) : Ignores p (await · a value) := by
  intro r r' h hr'
  obtain ⟨r₁, hr₁, rfl⟩ := map_ok.mp h
  have hr₁' : ¬ r₁.HasPattern := by
    rintro (hdraft | ⟨value', hwaiting⟩)
    · exact hr' (Or.inl hdraft)
    · rw [(waiting_of_settle hr₁).1] at hwaiting
      contradiction
  obtain ⟨hr, hsettle⟩ := ignores_settle r r₁ hr₁ hr₁'
  exact ⟨hr, map_ok.mpr ⟨r₁.withPattern p, hsettle, rfl⟩⟩

theorem ignores_readName (word : List UInt8) : Ignores p (readName · word) := by
  unfold readName
  dsimp only
  split
  · exact Ignores.error _
  next a ha =>
    split
    · exact ignores_put a _
    · exact ignores_await a none
    · exact Ignores.error _
    next htakes _ =>
      refine ignores_switch ?_ true
      rintro rfl
      contradiction

theorem ofLetter?_ne_pattern {c : Char} (h : Argument.ofLetter? c = some a) : a ≠ .pattern := by
  rintro rfl
  have hletter := List.find?_some h
  contradiction

theorem ignores_readLetters (letters : List UInt8) : Ignores p (readLetters · letters) := by
  induction letters with
  | nil => exact Ignores.ok
  | cons b rest ih =>
    unfold readLetters
    split
    next a ha => exact (ignores_switch (ofLetter?_ne_pattern ha) false).bind ih
    next => exact Ignores.error _

theorem nextPath?_withPattern (r : Reader) (p : String) :
    (r.withPattern p).nextPath? = r.nextPath? := rfl

def readPath (r : Reader) (word : ByteArray) : Except Refusal Reader :=
  match r.nextPath? with
  | some a => r.await a (some word)
  | none => .error (.usage (.unexpectedArgument (Utf8.display word)))

/-- The next word that is no option is the value of an option. -/
def AwaitsValue (r : Reader) : Prop := r.onlyPaths = false ∧ ∃ a, r.waiting = some (a, none)

theorem readPlain_of_not_awaitsValue (h : ¬ r.AwaitsValue) (word : ByteArray) :
    r.readPlain word = r.readPath word := by
  unfold readPlain
  split
  next a honly hwaiting => exact absurd ⟨honly, a, hwaiting⟩ h
  next => rfl

theorem readPlain_of_awaits (honly : r.onlyPaths = false) (hwaiting : r.waiting = some (a, none))
    (word : ByteArray) : r.readPlain word = .ok { r with waiting := some (a, some word) } := by
  simp only [readPlain, honly, hwaiting]

theorem ignores_readPath (word : ByteArray) : Ignores p (readPath · word) := by
  intro r r' h hr'
  dsimp only at h ⊢
  unfold readPath at h ⊢
  rw [nextPath?_withPattern]
  cases hpath : r.nextPath? with
  | none =>
    rw [hpath] at h
    contradiction
  | some a =>
    rw [hpath] at h
    exact ignores_await a (some word) r r' h hr'

theorem ignores_readPlain (word : ByteArray) : Ignores p (readPlain · word) := by
  intro r r' h hr'
  dsimp only at h ⊢
  by_cases hawaits : r.AwaitsValue
  · obtain ⟨honly, a, hwaiting⟩ := hawaits
    rw [readPlain_of_awaits honly hwaiting] at h
    obtain rfl := Except.ok.inj h
    refine ⟨?_, readPlain_of_awaits (r := r.withPattern p) honly hwaiting word⟩
    rintro (hdraft | ⟨value, hpattern⟩)
    · exact hr' (Or.inl hdraft)
    · rw [hwaiting] at hpattern
      obtain ⟨rfl, -⟩ := Prod.mk.inj (Option.some.inj hpattern)
      exact hr' (Or.inr ⟨_, rfl⟩)
  · rw [readPlain_of_not_awaitsValue hawaits] at h
    rw [readPlain_of_not_awaitsValue (r := r.withPattern p) hawaits]
    exact ignores_readPath word r r' h hr'

/-- A word before two dashes. -/
def readOpen (r : Reader) (word : ByteArray) : Except Refusal Reader :=
  match word.data.toList with
  | [0x2D, 0x2D] => .ok { r with onlyPaths := true }
  | 0x2D :: 0x2D :: name => r.readName name
  | 0x2D :: b :: letters => r.readLetters (b :: letters)
  | _ => r.readPlain word

theorem read_eq_ite (r : Reader) (word : ByteArray) :
    r.read word = if r.onlyPaths then r.readPlain word else r.readOpen word := by
  cases honly : r.onlyPaths with
  | true => simp only [read, honly, if_true]
  | false =>
    unfold read readOpen
    rw [honly, if_neg Bool.false_ne_true]
    split
    next hword => simp only [hword]
    next hword => simp only [hword]
    next hword => simp only [hword]
    next hdashes hname hletters =>
      split
      next hword => exact (hdashes rfl hword).elim
      next hword => exact (hname _ rfl hword).elim
      next hword => exact (hletters _ _ rfl hword).elim
      next => rfl

theorem ignores_readOpen (word : ByteArray) : Ignores p (readOpen · word) := by
  unfold readOpen
  split
  · intro r r' h hr'
    obtain rfl := Except.ok.inj h
    exact ⟨hr', rfl⟩
  · exact ignores_readName _
  · exact ignores_readLetters _
  · exact ignores_readPlain word

theorem ignores_read (word : ByteArray) : Ignores p (read · word) := by
  intro r r' h hr'
  dsimp only at h ⊢
  rw [read_eq_ite] at h ⊢
  change _ ∧ (if r.onlyPaths then _ else _) = _
  cases honly : r.onlyPaths with
  | true =>
    rw [honly] at h
    exact ignores_readPlain word r r' h hr'
  | false =>
    rw [honly] at h
    exact ignores_readOpen word r r' h hr'

/-- Any number of words without a pattern. -/
theorem ignores_foldlM_read (words : List ByteArray) : Ignores p (words.foldlM read ·) := by
  induction words with
  | nil => exact Ignores.ok
  | cons word words ih => exact (ignores_read word).bind ih

/-- The options of a command line that has been read. -/
def complete (r : Reader) : Except Refusal Options :=
  match r.draft.podsFile, r.draft.logFile with
  | some podsFile, some logFile =>
    .ok ⟨podsFile, logFile, r.draft.preset, r.draft.pattern, r.draft.counts, r.draft.format,
      r.draft.noColor, r.draft.verbose⟩
  | _, _ => .error (.usage (.missingPaths (Argument.paths.filter (!r.draft.has ·))))

theorem finish_eq_bind (r : Reader) : r.finish = r.settle.bind complete := rfl

theorem complete_withPattern {o : Options} (h : r.complete = .ok o) (p : String) :
    o.pattern = r.draft.pattern ∧
      (r.withPattern p).complete = .ok { o with pattern := some p } := by
  unfold complete at h ⊢
  cases hpods : r.draft.podsFile with
  | none =>
    rw [hpods] at h
    contradiction
  | some podsFile =>
    cases hlog : r.draft.logFile with
    | none =>
      rw [hpods, hlog] at h
      contradiction
    | some logFile =>
      rw [hpods, hlog] at h
      obtain rfl := Except.ok.inj h
      have hpods' : (r.withPattern p).draft.podsFile = some podsFile := hpods
      have hlog' : (r.withPattern p).draft.logFile = some logFile := hlog
      rw [hpods', hlog']
      exact ⟨rfl, rfl⟩

def run (r : Reader) (words : List ByteArray) : Except Refusal Options :=
  (words.foldlM read r).bind finish

theorem run_nil (r : Reader) : r.run [] = r.finish := rfl

theorem run_cons (r : Reader) (word : ByteArray) (words : List ByteArray) :
    r.run (word :: words) = (r.read word).bind fun r => r.run words := by
  unfold run
  rw [List.foldlM_cons]
  cases r.read word <;> rfl

theorem run_append (r : Reader) (before after : List ByteArray) :
    r.run (before ++ after) = (before.foldlM read r).bind fun r => r.run after := by
  unfold run
  rw [List.foldlM_append]
  cases before.foldlM read r <;> rfl

/-- Words without a pattern give the same options to a reader that has one, and the pattern. -/
theorem run_withPattern {words : List ByteArray} {o : Options} (h : r.run words = .ok o)
    (ho : o.pattern = none) (p : String) :
    ¬ r.HasPattern ∧ (r.withPattern p).run words = .ok { o with pattern := some p } := by
  obtain ⟨r', hr', hfinish⟩ := bind_ok.mp h
  rw [finish_eq_bind] at hfinish
  obtain ⟨r₁, hsettle, hcomplete⟩ := bind_ok.mp hfinish
  obtain ⟨hpattern, hcomplete'⟩ := complete_withPattern hcomplete p
  have hr₁ : ¬ r₁.HasPattern := by
    rintro (hdraft | ⟨value, hwaiting⟩)
    · rw [← hpattern, ho] at hdraft
      contradiction
    · rw [(waiting_of_settle hsettle).1] at hwaiting
      contradiction
  obtain ⟨hr, hwords⟩ := ((ignores_foldlM_read words).bind ignores_settle) r r₁
    (bind_ok.mpr ⟨r', hr', hsettle⟩) hr₁
  obtain ⟨r'', hr'', hsettle'⟩ := bind_ok.mp hwords
  exact ⟨hr, bind_ok.mpr ⟨r'', hr'', bind_ok.mpr ⟨_, hsettle', hcomplete'⟩⟩⟩

/-- The value of an option begins after the first equals sign, whatever it is. -/
theorem readName_value {name : String} (hname : a.name? = some name) (htakes : a.takesValue = true)
    (value : ByteArray) :
    r.readName (name.toUTF8.data.toList ++ 0x3D :: value.data.toList) = r.put a value := by
  have hnoEquals : ∀ b ∈ name.toUTF8.data.toList, (!decide (b = (0x3D : UInt8))) = true := by
    cases a with
    | preset | pattern | format =>
      obtain rfl := Option.some.inj hname
      exact List.all_eq_true.mp rfl
    | _ => contradiction
  have hof : Argument.ofName? name = some a := by
    cases a with
    | preset | pattern | format =>
      obtain rfl := Option.some.inj hname
      rfl
    | _ => contradiction
  have hread :
      (String.fromUTF8? ⟨name.toUTF8.data.toList.toArray⟩).bind Argument.ofName? = some a := by
    rw [Array.toArray_toList, Lines.fromUTF8?_toUTF8, Option.bind_some, hof]
  unfold readName
  dsimp only
  rw [List.takeWhile_append_of_pos hnoEquals, List.dropWhile_append_of_pos hnoEquals]
  simp only [decide_true, Bool.not_true, List.takeWhile_cons, List.dropWhile_cons,
    Bool.false_eq_true, if_false, List.append_nil, hread, htakes]

theorem read_value {name : String} (honly : r.onlyPaths = false) (hname : a.name? = some name)
    (htakes : a.takesValue = true) (text : String) :
    r.read ("--" ++ name ++ "=" ++ text).toUTF8 = r.put a text.toUTF8 := by
  have hword : ("--" ++ name ++ "=" ++ text).toUTF8.data.toList =
      0x2D :: 0x2D :: (name.toUTF8.data.toList ++ 0x3D :: text.toUTF8.data.toList) := by
    have happend : ("--" ++ name ++ "=" ++ text).toUTF8 =
        "--".toUTF8 ++ name.toUTF8 ++ "=".toUTF8 ++ text.toUTF8 := by
      change String.toByteArray _ = _
      rw [String.toByteArray_append, String.toByteArray_append, String.toByteArray_append]
      rfl
    rw [happend]
    simp only [ByteArray.data_append, Array.toList_append, List.append_assoc]
    rfl
  rw [read_eq_ite, honly, if_neg Bool.false_ne_true]
  unfold readOpen
  rw [hword]
  have hvalue := readName_value (r := r) hname htakes text.toUTF8
  cases hbytes : name.toUTF8.data.toList with
  | nil | cons b bs =>
    rw [hbytes] at hvalue
    exact hvalue

def patternWord (p : String) : ByteArray := ("--pattern=" ++ p).toUTF8

theorem read_patternWord (honly : r.onlyPaths = false) (hsettle : r.settle = .ok r₁)
    (hpattern : r₁.draft.pattern = none) (p : String) :
    r.read (patternWord p) = .ok (r₁.withPattern p) := by
  have hput : r₁.draft.put .pattern p.toUTF8 = .ok (r₁.draft.withPattern p) := by
    rw [Draft.put_eq_ok_iff]
    exact ⟨by rw [Draft.has, hpattern]; rfl, .pattern (textOf_toUTF8 p)⟩
  have hname : "--pattern=" = "--" ++ "pattern" ++ "=" := rfl
  rw [patternWord, hname, @read_value r .pattern "pattern" honly rfl rfl p, put, hsettle]
  exact map_ok.mpr ⟨_, hput, rfl⟩

theorem settle_of_settle (h : r.settle = .ok r₁) : r₁.settle = .ok r₁ := by
  unfold settle
  rw [(waiting_of_settle h).1]

theorem nextPath?_of_settle (h : r.settle = .ok r₁) : r₁.nextPath? = r.nextPath? := by
  unfold settle at h
  split at h
  next => rw [Except.ok.inj h]
  next => contradiction
  next a value hwaiting =>
    obtain ⟨d', hput, rfl⟩ := map_ok.mp h
    have hpods := Draft.has_put (b := .podsFile) (by decide) hput
    have hlog := Draft.has_put (b := .logFile) (by decide) hput
    unfold nextPath?
    simp only [hwaiting, Argument.paths, List.find?_cons, List.find?_nil, hpods, hlog,
      Option.any_some, Option.any_none, Bool.or_false]


/-- A step that gives the same if what waits is taken over before it. -/
def SettlesFirst (f : Reader → Except Refusal Reader) : Prop :=
  ∀ r r', f r = .ok r' ↔ ∃ r₁, r.settle = .ok r₁ ∧ f r₁ = .ok r'

theorem settlesFirst_of_bind (hf : ∀ r, f r = r.settle.bind g) : SettlesFirst f := by
  intro r r'
  rw [hf r, bind_ok]
  constructor
  · rintro ⟨r₁, hsettle, hg⟩
    exact ⟨r₁, hsettle, by rw [hf r₁, settle_of_settle hsettle]; exact hg⟩
  · rintro ⟨r₁, hsettle, hf₁⟩
    rw [hf r₁, settle_of_settle hsettle] at hf₁
    exact ⟨r₁, hsettle, hf₁⟩

theorem settlesFirst_error (e : Refusal) : SettlesFirst fun _ => .error e := by
  intro r r'
  exact iff_of_false nofun fun ⟨_, _, h⟩ => nomatch h

theorem settlesFirst_put (a : Argument) (value : ByteArray) : SettlesFirst (put · a value) :=
  settlesFirst_of_bind fun _ => rfl

theorem settlesFirst_switch (a : Argument) (full : Bool) : SettlesFirst (switch · a full) :=
  settlesFirst_of_bind fun _ => rfl

theorem settlesFirst_await (a : Argument) (value : Option ByteArray) :
    SettlesFirst (await · a value) := by
  refine settlesFirst_of_bind (g := fun r => .ok { r with waiting := some (a, value) }) fun r => ?_
  unfold await
  cases r.settle <;> rfl

theorem settlesFirst_readName (word : List UInt8) : SettlesFirst (readName · word) := by
  unfold readName
  dsimp only
  split
  · exact settlesFirst_error _
  · split
    · exact settlesFirst_put _ _
    · exact settlesFirst_await _ none
    · exact settlesFirst_error _
    · exact settlesFirst_switch _ true

theorem settlesFirst_readLetters (b : UInt8) (letters : List UInt8) :
    SettlesFirst (readLetters · (b :: letters)) := by
  unfold readLetters
  split
  next a ha =>
    refine settlesFirst_of_bind (g := fun r => ((r.draft.switch a false).map
      fun d => { r with draft := d }).bind (readLetters · letters)) fun r => ?_
    unfold switch
    cases r.settle <;> rfl
  next => exact settlesFirst_error _

theorem settlesFirst_readPath (word : ByteArray) : SettlesFirst (readPath · word) := by
  intro r r'
  dsimp only
  constructor
  · intro h
    unfold readPath at h
    cases hpath : r.nextPath? with
    | none =>
      rw [hpath] at h
      contradiction
    | some a =>
      rw [hpath] at h
      obtain ⟨r₁, hsettle, hawait⟩ := (settlesFirst_await a (some word) r r').mp h
      refine ⟨r₁, hsettle, ?_⟩
      rw [readPath, nextPath?_of_settle hsettle, hpath]
      exact hawait
  · rintro ⟨r₁, hsettle, h⟩
    unfold readPath at h
    rw [nextPath?_of_settle hsettle] at h
    cases hpath : r.nextPath? with
    | none =>
      rw [hpath] at h
      contradiction
    | some a =>
      rw [hpath] at h
      rw [readPath, hpath]
      exact (settlesFirst_await a (some word) r r').mpr ⟨r₁, hsettle, h⟩

theorem readPlain_settlesFirst (hawaits : ¬ r.AwaitsValue) (word : ByteArray) :
    r.readPlain word = .ok r' ↔ ∃ r₁, r.settle = .ok r₁ ∧ r₁.readPlain word = .ok r' := by
  rw [readPlain_of_not_awaitsValue hawaits, settlesFirst_readPath word r r']
  refine exists_congr fun r₁ => and_congr_right fun hsettle => ?_
  have hawaits₁ : ¬ r₁.AwaitsValue := by
    rintro ⟨-, a, hwaiting⟩
    rw [(waiting_of_settle hsettle).1] at hwaiting
    contradiction
  rw [readPlain_of_not_awaitsValue hawaits₁]

/-- Every word but two dashes makes the reader take over what waits. -/
theorem read_settlesFirst (hawaits : ¬ r.AwaitsValue) {word : ByteArray}
    (hdashes : r.onlyPaths = true ∨ word.data.toList ≠ [0x2D, 0x2D]) :
    r.read word = .ok r' ↔ ∃ r₁, r.settle = .ok r₁ ∧ r₁.read word = .ok r' := by
  have hite : r.read word = .ok r' ↔ ∃ r₁, r.settle = .ok r₁ ∧
      (if r.onlyPaths then r₁.readPlain word else r₁.readOpen word) = .ok r' := by
    rw [read_eq_ite]
    cases honly : r.onlyPaths with
    | true => exact readPlain_settlesFirst hawaits word
    | false =>
      simp only [Bool.false_eq_true, if_false]
      unfold readOpen
      split
      next hword =>
        have hne : word.data.toList ≠ [0x2D, 0x2D] := hdashes.resolve_left (by rw [honly]; decide)
        exact absurd hword hne
      · exact settlesFirst_readName _ r r'
      · exact settlesFirst_readLetters _ _ r r'
      · exact readPlain_settlesFirst hawaits word
  rw [hite]
  refine exists_congr fun r₁ => and_congr_right fun hsettle => ?_
  rw [read_eq_ite r₁, (waiting_of_settle hsettle).2]

theorem settle_onlyPaths (r : Reader) :
    ({ r with onlyPaths := true } : Reader).settle =
      r.settle.map fun r => { r with onlyPaths := true } := by
  obtain ⟨draft, waiting, onlyPaths⟩ := r
  cases waiting with
  | none => rfl
  | some w =>
    obtain ⟨a, _ | value⟩ := w
    · rfl
    · unfold settle
      dsimp only
      cases draft.put a value <;> rfl

/-- What waits may be taken over before the rest of the command line is read. -/
theorem run_settle {words : List ByteArray} {o : Options} (hawaits : ¬ r.AwaitsValue) :
    r.run words = .ok o ↔ ∃ r₁, r.settle = .ok r₁ ∧ r₁.run words = .ok o := by
  induction words generalizing r with
  | nil =>
    rw [run_nil, finish_eq_bind, bind_ok]
    refine exists_congr fun r₁ => and_congr_right fun hsettle => ?_
    rw [run_nil, finish_eq_bind, settle_of_settle hsettle]
    rfl
  | cons word words ih =>
    by_cases hdashes : r.onlyPaths = true ∨ word.data.toList ≠ [0x2D, 0x2D]
    · simp only [run_cons, bind_ok, read_settlesFirst hawaits hdashes]
      constructor
      · rintro ⟨r', ⟨r₁, hsettle, hread⟩, hrun⟩
        exact ⟨r₁, hsettle, r', hread, hrun⟩
      · rintro ⟨r₁, hsettle, r', hread, hrun⟩
        exact ⟨r', ⟨r₁, hsettle, hread⟩, hrun⟩
    · -- Two dashes are read without looking at what waits, which is then left for the next word.
      obtain ⟨honly, hword⟩ := not_or.mp hdashes
      have hread (r : Reader) (honly : r.onlyPaths = false) :
          r.read word = .ok { r with onlyPaths := true } := by
        rw [read_eq_ite, honly, if_neg Bool.false_ne_true, readOpen, Classical.not_not.mp hword]
        rfl
      have honly : r.onlyPaths = false := Bool.eq_false_iff.mpr honly
      rw [run_cons, hread r honly]
      change ({ r with onlyPaths := true } : Reader).run words = _ ↔ _
      rw [ih (r := { r with onlyPaths := true }) (fun h => nomatch h.1), settle_onlyPaths]
      constructor
      · rintro ⟨r', hr', hrun⟩
        obtain ⟨r₁, hsettle, rfl⟩ := map_ok.mp hr'
        refine ⟨r₁, hsettle, ?_⟩
        rw [run_cons, hread r₁ ((waiting_of_settle hsettle).2.trans honly)]
        exact hrun
      · rintro ⟨r₁, hsettle, hrun⟩
        rw [run_cons, hread r₁ ((waiting_of_settle hsettle).2.trans honly)] at hrun
        exact ⟨_, map_ok.mpr ⟨r₁, hsettle, rfl⟩, hrun⟩

end Reader

theorem parse_eq_run (words : List ByteArray) : parse words = Reader.run {} words := rfl

/-- After these words an option may stand: two dashes are not among them, and the last of them is no
option that waits for its value. -/
def TakesOption (words : List ByteArray) : Prop :=
  ∃ r, words.foldlM Reader.read {} = .ok r ∧ r.onlyPaths = false ∧ ∀ a, r.waiting ≠ some (a, none)

/-- A pattern may be added to a command line that has none, wherever an option may stand. -/
theorem parse_insert_pattern {before after : List ByteArray} {o : Options}
    (h : parse (before ++ after) = .ok o) (ho : o.pattern = none) (hbefore : TakesOption before)
    (p : String) :
    parse (before ++ Reader.patternWord p :: after) = .ok { o with pattern := some p } := by
  obtain ⟨r, hr, honly, hwaiting⟩ := hbefore
  have hawaits : ¬ r.AwaitsValue := fun ⟨_, a, ha⟩ => hwaiting a ha
  rw [parse_eq_run, Reader.run_append, hr] at h ⊢
  obtain ⟨r₁, hsettle, hrun⟩ := (Reader.run_settle hawaits).mp h
  obtain ⟨hnone, hrun⟩ := Reader.run_withPattern hrun ho p
  have hpattern : r₁.draft.pattern = none := by
    cases hdraft : r₁.draft.pattern with
    | none => rfl
    | some q => exact absurd (Or.inl (by rw [hdraft]; rfl)) hnone
  change r.run (Reader.patternWord p :: after) = _
  rw [Reader.run_cons, Reader.read_patternWord honly hsettle hpattern]
  exact hrun

end RollCall.CommandLine
