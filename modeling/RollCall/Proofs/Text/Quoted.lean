import Mathlib.Tactic.ByContra
import Mathlib.Tactic.SplitIfs
import RollCall.Proofs.Text.Delimited
import RollCall.Proofs.Unicode
import RollCall.Text

/-! Quoted texts hold no control characters, whatever the texts hold, and a list of texts is told by
its quoted form. -/
namespace RollCall

/-- No character is a control character below the blank. -/
def NoControls (cs : List Char) : Prop := ∀ c ∈ cs, 0x20 ≤ c.toNat

instance (cs : List Char) : Decidable (NoControls cs) :=
  @List.decidableBAll Char (fun c => 0x20 ≤ c.toNat) (fun _ => inferInstance) cs

variable {as bs cs : List Char}

theorem noControls_nil : NoControls [] := nofun

theorem noControls_append : NoControls (as ++ bs) ↔ NoControls as ∧ NoControls bs :=
  List.forall_mem_append

theorem noControls_cons {c : Char} : NoControls (c :: cs) ↔ 0x20 ≤ c.toNat ∧ NoControls cs :=
  List.forall_mem_cons

theorem NoControls.flatMap {α : Type} {l : List α} {f : α → List Char}
    (h : ∀ x ∈ l, NoControls (f x)) : NoControls (l.flatMap f) := by
  intro c hc
  obtain ⟨x, hx, hc⟩ := List.mem_flatMap.mp hc
  exact h x hx c hc

/-- The only control characters below the blank are line feeds. -/
def OnLines (cs : List Char) : Prop := ∀ c ∈ cs, c = '\n' ∨ 0x20 ≤ c.toNat

instance (cs : List Char) : Decidable (OnLines cs) :=
  @List.decidableBAll Char (fun c => c = '\n' ∨ 0x20 ≤ c.toNat) (fun _ => inferInstance) cs

theorem NoControls.onLines (h : NoControls cs) : OnLines cs := fun c hc => Or.inr (h c hc)

theorem onLines_append : OnLines (as ++ bs) ↔ OnLines as ∧ OnLines bs := List.forall_mem_append

theorem onLines_cons {c : Char} : OnLines (c :: cs) ↔ (c = '\n' ∨ 0x20 ≤ c.toNat) ∧ OnLines cs :=
  List.forall_mem_cons

theorem OnLines.not_mem {c : Char} (h : OnLines cs) (hc : c.toNat < 0x20) (hne : c ≠ '\n') :
    c ∉ cs := fun hmem => (h c hmem).elim hne (Nat.not_le.mpr hc)

theorem NoControls.intercalate {sep : List Char} {l : List (List Char)} (hsep : NoControls sep)
    (h : ∀ cs ∈ l, NoControls cs) : NoControls (List.intercalate sep l) := by
  induction l with
  | nil => exact nofun
  | cons cs l ih =>
    obtain ⟨hcs, hl⟩ := List.forall_mem_cons.mp h
    cases l with
    | nil => rwa [List.intercalate_singleton]
    | cons ds l =>
      rw [List.intercalate_cons_cons]
      exact noControls_append.mpr ⟨noControls_append.mpr ⟨hcs, hsep⟩, ih hl⟩

theorem noControls_digitChar : ∀ n < 16, 0x20 ≤ n.digitChar.toNat := by decide

theorem noControls_toDigits {base : Nat} (hbase : 1 < base) (hle : base ≤ 16) (n : Nat) :
    NoControls (Nat.toDigits base n) := by
  induction n using Nat.strongRecOn with
  | ind n ih =>
    rw [Nat.toDigits_eq_if hbase]
    split
    · next hlt => exact noControls_cons.mpr ⟨noControls_digitChar n (by omega), noControls_nil⟩
    · have hdiv : n / base < n := Nat.div_lt_self (by omega) hbase
      have hmod : n % base < base := Nat.mod_lt n (by omega)
      exact noControls_append.mpr
        ⟨ih _ hdiv, noControls_cons.mpr ⟨noControls_digitChar _ (by omega), noControls_nil⟩⟩

namespace Quoted

theorem noControls_quoteChar (c : Char) : NoControls (quoteChar c) := by
  unfold quoteChar
  split_ifs with h0 ht hr hn hq hb hascii hshown
  · decide
  · decide
  · decide
  · decide
  · decide
  · decide
  · exact noControls_cons.mpr ⟨hascii.1, noControls_nil⟩
  · unfold numbered
    have hdigits := noControls_toDigits (by decide) (Nat.le_refl 16) c.toNat
    exact noControls_append.mpr ⟨noControls_append.mpr ⟨by decide, hdigits⟩, by decide⟩
  · refine noControls_cons.mpr ⟨?_, noControls_nil⟩
    by_contra hcontrol
    rw [Unicode.unprintable_of_control (Nat.not_le.mp hcontrol), Bool.or_true] at hshown
    exact hshown rfl

theorem noControls_quote (s : String) : NoControls (quote s) :=
  noControls_cons.mpr ⟨by decide,
    noControls_append.mpr ⟨.flatMap fun c _ => noControls_quoteChar c, by decide⟩⟩

theorem noControls_quoteList (l : List String) : NoControls (quoteList l) := by
  have hitems : NoControls (List.intercalate [',', ' '] (l.map quote)) := by
    apply NoControls.intercalate (by decide)
    intro cs hcs
    obtain ⟨s, -, rfl⟩ := List.mem_map.mp hcs
    exact noControls_quote s
  exact noControls_cons.mpr ⟨by decide, noControls_append.mpr ⟨hitems, by decide⟩⟩

/-- The characters that are written with a backslash and a letter of their own. -/
def letters : List (Char × Char) :=
  [('\x00', '0'), ('\t', 't'), ('\r', 'r'), ('\n', 'n'), ('"', '"'), ('\\', '\\')]

inductive Form : Char → List Char → Prop
  | letter {c e : Char} (h : (c, e) ∈ letters) : Form c ['\\', e]
  | numbered (c : Char) : Form c (numbered c)
  | plain {c : Char} (hq : c ≠ '"') (hb : c ≠ '\\') : Form c [c]

theorem form_quoteChar (c : Char) : Form c (quoteChar c) := by
  unfold quoteChar
  split_ifs with h0 ht hr hn hq hb hascii hshown
  · subst h0
    exact .letter (by decide)
  · subst ht
    exact .letter (by decide)
  · subst hr
    exact .letter (by decide)
  · subst hn
    exact .letter (by decide)
  · subst hq
    exact .letter (by decide)
  · subst hb
    exact .letter (by decide)
  · exact .plain hq hb
  · exact .numbered c
  · exact .plain hq hb

theorem eq_of_letters : ∀ p ∈ letters, ∀ q ∈ letters, p.2 = q.2 → p.1 = q.1 := by decide

theorem ne_u_of_letters : ∀ p ∈ letters, p.2 ≠ 'u' := by decide

theorem brace_notMem_toDigits (n : Nat) : '}' ∉ Nat.toDigits 16 n := by
  induction n using Nat.strongRecOn with
  | ind n ih =>
    have hdigit : ∀ d < 16, '}' ≠ d.digitChar := by decide
    rw [Nat.toDigits_eq_if (by decide)]
    split
    · next hlt => exact fun h => hdigit n hlt (List.mem_singleton.mp h)
    · rw [List.mem_append, not_or, List.mem_singleton]
      exact ⟨ih (n / 16) (by omega), hdigit (n % 16) (Nat.mod_lt n (by decide))⟩

theorem numbered_append_inj {c d : Char} {x y : List Char}
    (h : numbered c ++ x = numbered d ++ y) : c = d ∧ x = y := by
  have hdigits : Nat.toDigits 16 c.toNat ++ '}' :: x = Nat.toDigits 16 d.toNat ++ '}' :: y := by
    simpa [numbered] using h
  obtain ⟨hnat, hxy⟩ := append_cons_inj_of_first (brace_notMem_toDigits _)
    (brace_notMem_toDigits _) hdigits
  exact ⟨Char.toNat_inj.mp (toDigits_inj (by decide) (by decide) hnat), hxy⟩

theorem selfDelimiting_quoteChar : SelfDelimiting quoteChar := by
  intro c d x y h
  have hc := form_quoteChar c
  have hd := form_quoteChar d
  generalize quoteChar c = u at hc h
  generalize quoteChar d = v at hd h
  cases hc with
  | letter hc =>
    cases hd with
    | letter hd =>
      obtain ⟨he, hxy⟩ := List.cons.inj (List.cons.inj h).2
      exact ⟨eq_of_letters _ hc _ hd he, hxy⟩
    | numbered => exact absurd (List.cons.inj (List.cons.inj h).2).1 (ne_u_of_letters _ hc)
    | plain _ hb => exact absurd (List.cons.inj h).1.symm hb
  | numbered =>
    cases hd with
    | letter hd => exact absurd (List.cons.inj (List.cons.inj h).2).1.symm (ne_u_of_letters _ hd)
    | numbered => exact numbered_append_inj h
    | plain _ hb => exact absurd (List.cons.inj h).1.symm hb
  | plain hq hb =>
    cases hd with
    | letter => exact absurd (List.cons.inj h).1 hb
    | numbered => exact absurd (List.cons.inj h).1 hb
    | plain => exact List.cons.inj h

/-- A quotation mark begins no character inside quotation marks. -/
theorem exists_quoteChar_eq_cons (c : Char) : ∃ e es, quoteChar c = e :: es ∧ e ≠ '"' := by
  have hc := form_quoteChar c
  generalize quoteChar c = u at hc
  cases hc with
  | letter => exact ⟨_, _, rfl, by decide⟩
  | numbered => exact ⟨_, _, rfl, by decide⟩
  | plain hq => exact ⟨_, _, rfl, hq⟩

theorem selfDelimiting_quote : SelfDelimiting quote := by
  intro s t x y h
  have hchars : s.toList.flatMap quoteChar ++ '"' :: x = t.toList.flatMap quoteChar ++ '"' :: y := by
    simpa [quote] using h
  obtain ⟨hst, hxy⟩ :=
    selfDelimiting_quoteChar.flatMap_append_cons_inj exists_quoteChar_eq_cons hchars
  exact ⟨String.toList_inj.mp hst, hxy⟩

/-- A list in brackets after its first text. -/
theorem quoteList_cons (s : String) (l : List String) :
    quoteList (s :: l) = '[' :: (quote s ++ (l.flatMap ([',', ' '] ++ quote ·) ++ [']'])) := by
  rw [quoteList, List.map_cons]
  congr 1
  rw [← List.append_assoc]
  congr 1
  induction l generalizing s with
  | nil => simp
  | cons t l ih => rw [List.map_cons, List.intercalate_cons_cons, ih]; simp

theorem quoteList_injective : Function.Injective quoteList := by
  intro l m h
  cases l with
  | nil =>
    cases m with
    | nil => rfl
    | cons t m =>
      rw [quoteList_cons] at h
      exact absurd (List.cons.inj (List.cons.inj h).2).1 (by decide)
  | cons s l =>
    cases m with
    | nil =>
      rw [quoteList_cons] at h
      exact absurd (List.cons.inj (List.cons.inj h).2).1 (by decide)
    | cons t m =>
      rw [quoteList_cons, quoteList_cons] at h
      obtain ⟨rfl, hrest⟩ := selfDelimiting_quote (List.cons.inj h).2
      have hitem : SelfDelimiting ([',', ' '] ++ quote ·) := fun a b x y hab =>
        selfDelimiting_quote (List.cons.inj (List.cons.inj hab).2).2
      obtain ⟨rfl, -⟩ := hitem.flatMap_append_cons_inj
        (fun a => ⟨',', ' ' :: quote a, rfl, by decide⟩) hrest
      rfl

end Quoted

end RollCall
