import RollCall.Proofs.CommandLine.Reader

/-! Flags on the command line. What was taken over stays, and so a flag before two dashes counts
wherever it stands. -/
namespace RollCall.CommandLine

namespace Draft

variable {d d' : Draft} {a b : Argument} {value : ByteArray} {full : Bool}

theorem has_of_put (h : d.put a value = .ok d') (hb : d.has b = true) : d'.has b = true := by
  obtain ⟨-, hputs⟩ := put_eq_ok_iff.mp h
  cases hputs with
  | podsFile | logFile | preset | pattern | format => cases b <;> first | exact hb | rfl
  | flag => exact hb

theorem has_of_switch (h : d.switch a full = .ok d') (hb : d.has b = true) : d'.has b = true := by
  obtain ⟨-, hswitches⟩ := switch_eq_ok_iff.mp h
  cases hswitches with
  | counts | noColor | verbose => cases b <;> first | exact hb | rfl
  | valued => exact hb

theorem has_switched (ha : a.takesValue = false) (h : d.switch a full = .ok d') :
    d'.has a = true := by
  obtain ⟨-, hswitches⟩ := switch_eq_ok_iff.mp h
  cases hswitches with
  | counts | noColor | verbose => rfl
  | valued hvalue =>
    rw [ha] at hvalue
    contradiction

end Draft

namespace Reader

variable {r r' : Reader} {a : Argument} {word : ByteArray} {f g : Reader → Except Refusal Reader}

/-- A later state of a reader that has not met two dashes since. -/
structure Follows (r r' : Reader) : Prop where
  has : ∀ a, r.draft.has a = true → r'.draft.has a = true
  onlyPaths : r'.onlyPaths = r.onlyPaths

theorem Follows.refl (r : Reader) : r.Follows r := ⟨fun _ => id, rfl⟩

theorem Follows.trans {r₁ r₂ r₃ : Reader} (h : r₁.Follows r₂) (h' : r₂.Follows r₃) :
    r₁.Follows r₃ :=
  ⟨fun a ha => h'.has a (h.has a ha), h'.onlyPaths.trans h.onlyPaths⟩

def Keeps (f : Reader → Except Refusal Reader) : Prop := ∀ r r', f r = .ok r' → r.Follows r'

theorem Keeps.error (e : Refusal) : Keeps fun _ => .error e := by
  intro r r' h
  contradiction

theorem Keeps.ok : Keeps .ok := by
  intro r r' h
  exact Except.ok.inj h ▸ .refl r

theorem Keeps.bind (hf : Keeps f) (hg : Keeps g) : Keeps fun r => (f r).bind g := by
  intro r r' h
  obtain ⟨r₁, hr₁, h⟩ := bind_ok.mp h
  exact (hf r r₁ hr₁).trans (hg r₁ r' h)

theorem keeps_put_draft (a : Argument) (value : ByteArray) :
    Keeps fun r => (r.draft.put a value).map fun d => { r with draft := d } := by
  intro r r' h
  obtain ⟨d', hd', rfl⟩ := map_ok.mp h
  exact ⟨fun _ => Draft.has_of_put hd', rfl⟩

theorem keeps_switch_draft (a : Argument) (full : Bool) :
    Keeps fun r => (r.draft.switch a full).map fun d => { r with draft := d } := by
  intro r r' h
  obtain ⟨d', hd', rfl⟩ := map_ok.mp h
  exact ⟨fun _ => Draft.has_of_switch hd', rfl⟩

theorem keeps_settle : Keeps settle := by
  intro r r' h
  unfold settle at h
  split at h
  · exact Except.ok.inj h ▸ .refl r
  · contradiction
  · obtain ⟨d', hd', rfl⟩ := map_ok.mp h
    exact ⟨fun _ => Draft.has_of_put hd', rfl⟩

theorem keeps_put (a : Argument) (value : ByteArray) : Keeps (put · a value) :=
  keeps_settle.bind (keeps_put_draft a value)

theorem keeps_switch (a : Argument) (full : Bool) : Keeps (switch · a full) :=
  keeps_settle.bind (keeps_switch_draft a full)

theorem keeps_await (a : Argument) (value : Option ByteArray) : Keeps (await · a value) := by
  intro r r' h
  obtain ⟨r₁, hr₁, rfl⟩ := map_ok.mp h
  obtain ⟨hhas, honly⟩ := keeps_settle r r₁ hr₁
  exact ⟨hhas, honly⟩

theorem keeps_readName (word : List UInt8) : Keeps (readName · word) := by
  unfold readName
  dsimp only
  split
  · exact Keeps.error _
  · split
    · exact keeps_put _ _
    · exact keeps_await _ none
    · exact Keeps.error _
    · exact keeps_switch _ true

theorem keeps_readLetters (letters : List UInt8) : Keeps (readLetters · letters) := by
  induction letters with
  | nil => exact Keeps.ok
  | cons b rest ih =>
    unfold readLetters
    split
    · exact (keeps_switch _ false).bind ih
    · exact Keeps.error _

theorem keeps_readPlain (word : ByteArray) : Keeps (readPlain · word) := by
  intro r r' h
  dsimp only at h
  unfold readPlain at h
  split at h
  · obtain rfl := Except.ok.inj h
    exact ⟨fun _ => id, rfl⟩
  · split at h
    · exact keeps_await _ _ r r' h
    · contradiction

/-- Every word but two dashes. -/
theorem keeps_read (hword : word ≠ "--".toUTF8) : Keeps (read · word) := by
  intro r r' h
  dsimp only at h
  rw [read_eq_ite] at h
  split at h
  · exact keeps_readPlain word r r' h
  · unfold readOpen at h
    split at h
    next hdashes => exact absurd (ByteArray.ext (Array.toList_inj.mp hdashes)) hword
    · exact keeps_readName _ r r' h
    · exact keeps_readLetters _ r r' h
    · exact keeps_readPlain word r r' h

/-- Two dashes change no draft either. -/
theorem has_of_read (h : r.read word = .ok r') (ha : r.draft.has a = true) :
    r'.draft.has a = true := by
  by_cases hword : word = "--".toUTF8
  · rw [read_eq_ite] at h
    split at h
    · exact (keeps_readPlain word r r' h).has a ha
    · rw [hword] at h
      exact Except.ok.inj h ▸ ha
  · exact (keeps_read hword r r' h).has a ha

theorem keeps_foldlM_read {words : List ByteArray} (hwords : "--".toUTF8 ∉ words) :
    Keeps (words.foldlM read ·) := by
  induction words with
  | nil => exact Keeps.ok
  | cons word words ih =>
    rw [List.mem_cons, not_or] at hwords
    exact (keeps_read (Ne.symm hwords.1)).bind (ih hwords.2)

theorem has_of_foldlM_read {words : List ByteArray} (h : words.foldlM read r = .ok r')
    (ha : r.draft.has a = true) : r'.draft.has a = true := by
  induction words generalizing r with
  | nil => exact Except.ok.inj h ▸ ha
  | cons word words ih =>
    rw [List.foldlM_cons] at h
    obtain ⟨r₁, hr₁, h⟩ := bind_ok.mp h
    exact ih h (has_of_read hr₁ ha)

theorem read_flag {name : String} (honly : r.onlyPaths = false) (hname : a.name? = some name)
    (htakes : a.takesValue = false) : r.read ("--" ++ name).toUTF8 = r.switch a true := by
  rw [read_eq_ite, honly]
  cases a with
  | podsFile | logFile => contradiction
  | preset | pattern | format => contradiction
  | counts | noColor | verbose | help | version =>
    obtain rfl := Option.some.inj hname
    rfl

/-- A flag before two dashes is taken over by the end. -/
theorem has_of_flag {before after : List ByteArray} {name : String} {o : Options}
    (h : r.run (before ++ ("--" ++ name).toUTF8 :: after) = .ok o) (honly : r.onlyPaths = false)
    (hbefore : "--".toUTF8 ∉ before) (hname : a.name? = some name) (htakes : a.takesValue = false) :
    ∃ r' : Reader, r'.complete = .ok o ∧ r'.draft.has a = true := by
  rw [run_append] at h
  obtain ⟨r₁, hr₁, hrun⟩ := bind_ok.mp h
  rw [run_cons] at hrun
  obtain ⟨r₂, hr₂, hrest⟩ := bind_ok.mp hrun
  obtain ⟨r₃, hr₃, hfinish⟩ := bind_ok.mp hrest
  obtain ⟨r₄, hr₄, hcomplete⟩ := bind_ok.mp hfinish
  rw [read_flag ((keeps_foldlM_read hbefore r r₁ hr₁).onlyPaths.trans honly) hname htakes] at hr₂
  obtain ⟨r', -, hswitch⟩ := bind_ok.mp hr₂
  obtain ⟨d, hd, rfl⟩ := map_ok.mp hswitch
  have hread := has_of_foldlM_read hr₃ (Draft.has_switched htakes hd)
  exact ⟨r₄, hcomplete, (keeps_settle r₃ r₄ hr₄).has a hread⟩

end Reader

/-- The word for no colour, before two dashes, is heeded. -/
theorem noColor_of_parse {before after : List ByteArray} {o : Options}
    (h : parse (before ++ "--no-color".toUTF8 :: after) = .ok o)
    (hbefore : "--".toUTF8 ∉ before) : o.noColor = true := by
  rw [parse_eq_run] at h
  obtain ⟨r, hr, hhas⟩ := @Reader.has_of_flag {} .noColor before after "no-color" o h rfl hbefore
    rfl rfl
  unfold Reader.complete at hr
  split at hr
  · exact Except.ok.inj hr ▸ hhas
  · contradiction

end RollCall.CommandLine
