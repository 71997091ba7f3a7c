import RollCall.Proofs.Json.Reader

/-! The reader accepts exactly the texts of the grammar, and a text has one value at most. -/
namespace RollCall.Json

section Beginnings

theorem blanks_skipBlanks (cs : List Char) : Blanks cs (skipBlanks cs) := by
  induction cs with
  | nil => exact .done
  | cons c cs ih =>
    by_cases hc : isBlank c = true
    · rw [skipBlanks, List.dropWhile_cons_of_pos hc]
      exact .more hc ih
    · rw [skipBlanks, List.dropWhile_cons_of_neg hc]
      exact .done

/-- Blanks are skipped as far as they go. -/
theorem Blanks.skipBlanks_eq {cs rest : List Char} (h : Blanks cs rest)
    (hrest : ∀ c ∈ rest.head?, isBlank c = false) : skipBlanks cs = rest := by
  induction h with
  | @done cs =>
    cases cs with
    | nil => rfl
    | cons c cs => simp [skipBlanks, hrest c rfl]
  | more hc _ ih => rw [skipBlanks, List.dropWhile_cons_of_pos hc]; exact ih hrest

theorem mem_of_isBlank {c : Char} (h : isBlank c = true) : c ∈ [' ', '\t', '\n', '\r'] := by
  simpa [isBlank, or_assoc] using h

theorem Blanks.endsNumber {cs rest : List Char} (h : Blanks cs rest) (hrest : EndsNumber rest) :
    EndsNumber cs := by
  cases h with
  | done => exact hrest
  | @more c cs rest hc _ =>
    have hends : ∀ c ∈ [' ', '\t', '\n', '\r'],
        c.isDigit = false ∧ c ≠ '.' ∧ c ≠ 'e' ∧ c ≠ 'E' := by simp
    rintro _ ⟨⟩
    exact hends c (mem_of_isBlank hc)

/-- A value can begin here: no blank comes next, and no bracket that closes. -/
def Opens (cs : List Char) : Prop :=
  ∃ c cs', cs = c :: cs' ∧ isBlank c = false ∧ c ≠ ']' ∧ c ≠ '}'

def Closes (rest : List Char) : Prop := ∀ c ∈ rest.head?, c ∈ [',', ']', '}']

theorem Opens.skipBlanks_eq {cs rest : List Char} (h : Opens rest) (hblanks : Blanks cs rest) :
    skipBlanks cs = rest := by
  obtain ⟨c, cs', rfl, hc, -⟩ := h
  refine hblanks.skipBlanks_eq ?_
  rintro _ ⟨⟩
  exact hc

theorem Closes.skipBlanks_eq {cs rest : List Char} (h : Closes rest) (hblanks : Blanks cs rest) :
    skipBlanks cs = rest := by
  have hclose : ∀ c ∈ [',', ']', '}'], isBlank c = false := by simp [isBlank]
  exact hblanks.skipBlanks_eq fun c hc => hclose c (h c hc)

theorem Closes.endsNumber {rest : List Char} (h : Closes rest) : EndsNumber rest := by
  have hclose : ∀ c ∈ [',', ']', '}'], c.isDigit = false ∧ c ≠ '.' ∧ c ≠ 'e' ∧ c ≠ 'E' := by
    simp
  exact fun c hc => hclose c (h c hc)

theorem closes_of_head {c : Char} {rest : List Char} (hc : c ∈ [',', ']', '}']) :
    Closes (c :: rest) := by
  rintro _ ⟨⟩
  exact hc

theorem NumberForm.opens {cs rest : List Char} {m e : Int} (h : NumberForm cs m e rest) :
    Opens cs := by
  obtain ⟨c, cs', rfl, rfl | hc⟩ := h.head
  · exact ⟨'-', cs', rfl, by decide⟩
  · have hother : ∀ c ∈ [' ', '\t', '\n', '\r', ']', '}'], c.isDigit = false := by simp
    refine ⟨c, cs', rfl, ?_, ?_, ?_⟩
    · refine Bool.eq_false_iff.mpr fun hblank => ?_
      have hmem : c ∈ [' ', '\t', '\n', '\r', ']', '}'] :=
        List.mem_append_left [']', '}'] (mem_of_isBlank hblank)
      simp [hother c hmem] at hc
    · rintro rfl
      simp at hc
    · rintro rfl
      simp at hc

theorem Form.opens {cs rest : List Char} {v : Value} (h : Form cs (.value v) rest) : Opens cs := by
  cases h with
  | number h => exact h.opens
  | _ => exact ⟨_, _, rfl, by decide⟩

/-- A value that is no text, array or object is a word or a number. -/
theorem readValue_of_other {n : Nat} {c : Char} {cs : List Char} (hc : c ∉ ['"', '[', '{']) :
    readValue n (c :: cs) = (readWord (c :: cs)).or (readNumber (c :: cs)) := by
  have hmark : c ≠ '"' := fun h => hc (by simp [h])
  have hbracket : c ≠ '[' := fun h => hc (by simp [h])
  have hbrace : c ≠ '{' := fun h => hc (by simp [h])
  cases n <;> simp [readValue, hmark, hbracket, hbrace]

theorem form_of_readWord {cs rest : List Char} {v : Value} (h : readWord cs = some (v, rest)) :
    Form cs (.value v) rest := by
  unfold readWord at h
  split at h
  · rename_i hprefix
    obtain ⟨rest', rfl⟩ := hprefix
    obtain ⟨rfl, rfl⟩ : Value.null = v ∧ rest' = rest := by simpa using h
    exact .null
  split at h
  · rename_i hprefix
    obtain ⟨rest', rfl⟩ := hprefix
    obtain ⟨rfl, rfl⟩ : Value.bool true = v ∧ rest' = rest := by simpa using h
    exact .true
  split at h
  · rename_i hprefix
    obtain ⟨rest', rfl⟩ := hprefix
    obtain ⟨rfl, rfl⟩ : Value.bool false = v ∧ rest' = rest := by simpa using h
    exact .false
  · contradiction

theorem NumberForm.readWord_eq {cs rest : List Char} {m e : Int} (h : NumberForm cs m e rest) :
    readWord cs = none := by
  obtain ⟨c, cs', rfl, hc⟩ := h.head
  have hletter : c ≠ 'n' ∧ c ≠ 't' ∧ c ≠ 'f' := by
    refine ⟨?_, ?_, ?_⟩ <;> rintro rfl <;> simp at hc
  simp [readWord, hletter.1.symm, hletter.2.1.symm, hletter.2.2.symm]

theorem NumberForm.readValue_eq {cs rest : List Char} {m e : Int} (h : NumberForm cs m e rest)
    (hrest : EndsNumber rest) (n : Nat) : readValue n cs = some (.number m e, rest) := by
  obtain ⟨c, cs', rfl, hc⟩ := h.head
  have hother : c ∉ ['"', '[', '{'] := by
    intro hmem
    have hdigit : ∀ c ∈ ['"', '[', '{'], ¬ (c = '-' ∨ c.isDigit = true) := by simp
    exact hdigit c hmem hc
  rw [readValue_of_other hother, h.readWord_eq, h.readNumber_eq hrest]
  rfl

end Beginnings

variable {α : Type} {part : List Char → Option (α × List Char)}

section Sound

/-- Parts with commas between them have every property that a last part has and that a part and a
comma pass on. -/
theorem readParts_induction {motive : List Char → List α → List Char → Prop}
    (last : ∀ cs a rest, part cs = some (a, rest) → motive cs [a] rest)
    (more : ∀ cs a cs' as rest, part cs = some (a, ',' :: cs') → motive cs' as rest →
      motive cs (a :: as) rest)
    {n : Nat} {cs rest : List Char} {as : List α} (h : readParts part n cs = some (as, rest)) :
    motive cs as rest := by
  induction n generalizing cs as with
  | zero =>
    simp only [readParts, Option.map_eq_some_iff, Prod.mk.injEq, Prod.exists] at h
    obtain ⟨a, rest', ha, rfl, rfl⟩ := h
    exact last cs a rest' ha
  | succ n ih =>
    simp only [readParts, Option.bind_eq_bind, Option.bind_eq_some_iff, Prod.exists] at h
    obtain ⟨a, rest', ha, h⟩ := h
    split at h
    · rename_i hcomma
      simp only [Option.bind_eq_some_iff, Prod.exists] at h
      obtain ⟨as', rest'', has, h⟩ := h
      cases h
      obtain ⟨cs', rfl⟩ := List.head?_eq_some_iff.mp hcomma
      exact more cs a cs' as' rest ha (ih has)
    · cases h
      exact last cs a rest ha

theorem readClosed_eq_some {close : Char} {cs rest : List Char} {as : List α}
    (h : readClosed part close cs = some (as, rest)) :
    as = [] ∧ Blanks cs (close :: rest) ∨
      readParts part cs.length cs = some (as, close :: rest) := by
  unfold readClosed at h
  split at h
  · rename_i hclose
    cases h
    obtain ⟨cs', hskip⟩ := List.head?_eq_some_iff.mp hclose
    have hblanks := blanks_skipBlanks cs
    rw [hskip] at hblanks ⊢
    exact .inl ⟨rfl, hblanks⟩
  · simp only [Option.bind_eq_bind, Option.bind_eq_some_iff, Prod.exists] at h
    obtain ⟨as', rest', has, h⟩ := h
    split at h
    · rename_i hclose
      cases h
      obtain ⟨cs', rfl⟩ := List.head?_eq_some_iff.mp hclose
      exact .inr has
    · contradiction

variable {value : List Char → Option (Value × List Char)}

theorem form_of_readElement
    (hvalue : ∀ {cs v rest}, value cs = some (v, rest) → Form cs (.value v) rest)
    {cs rest : List Char} {v : Value} (h : readElement value cs = some (v, rest)) :
    Form cs (.element v) rest := by
  simp only [readElement, Option.map_eq_some_iff, Prod.mk.injEq, Prod.exists] at h
  obtain ⟨v, rest', hv, rfl, rfl⟩ := h
  exact .element (blanks_skipBlanks cs) (hvalue hv) (blanks_skipBlanks rest')

theorem form_of_readMember
    (hvalue : ∀ {cs v rest}, value cs = some (v, rest) → Form cs (.value v) rest)
    {cs rest : List Char} {name : String} {v : Value}
    (h : readMember value cs = some ((name, v), rest)) : Form cs (.member name v) rest := by
  unfold readMember at h
  split at h
  · rename_i cs₁ hmark
    simp only [Option.bind_eq_bind, Option.bind_eq_some_iff, Prod.exists] at h
    obtain ⟨name', cs₂, hname, h⟩ := h
    split at h
    · rename_i cs₃ hcolon
      simp only [Option.map_eq_some_iff, Prod.mk.injEq, Prod.exists] at h
      obtain ⟨v, rest, hv, ⟨rfl, rfl⟩, rfl⟩ := h
      exact .member (hmark ▸ blanks_skipBlanks cs) (readText_eq_some_iff.mp hname)
        (hcolon ▸ blanks_skipBlanks cs₂) (form_of_readElement hvalue hv)
    · contradiction
  · contradiction

/-- Whatever the reader takes for a value is one. -/
theorem form_of_readValue {n : Nat} {cs rest : List Char} {v : Value}
    (h : readValue n cs = some (v, rest)) : Form cs (.value v) rest := by
  induction n using Nat.strongRecOn generalizing cs rest v with
  | ind n ih =>
    revert h
    fun_cases readValue n cs with
    | case1 cs =>
      intro h
      simp only [Option.map_eq_some_iff, Prod.mk.injEq, Prod.exists] at h
      obtain ⟨s, rest, hs, rfl, rfl⟩ := h
      exact .string (readText_eq_some_iff.mp hs)
    | case2 n cs =>
      intro h
      have ih := @ih n (Nat.lt_succ_self n)
      simp only [Option.map_eq_some_iff, Prod.mk.injEq, Prod.exists] at h
      obtain ⟨vs, rest, hvs, rfl, rfl⟩ := h
      obtain ⟨rfl, hempty⟩ | hvs := readClosed_eq_some hvs
      · exact .emptyArray hempty
      · refine .array (readParts_induction
          (motive := fun cs vs rest => Form cs (.elements vs) rest) ?_ ?_ hvs)
        · exact fun cs v rest hv => .lastElement (form_of_readElement ih hv)
        · exact fun cs v cs' vs rest hv hvs => .elements (form_of_readElement ih hv) hvs
    | case3 n cs =>
      intro h
      have ih := @ih n (Nat.lt_succ_self n)
      simp only [Option.map_eq_some_iff, Prod.mk.injEq, Prod.exists] at h
      obtain ⟨ms, rest, hms, rfl, rfl⟩ := h
      obtain ⟨rfl, hempty⟩ | hms := readClosed_eq_some hms
      · exact .emptyObject hempty
      · refine .object (readParts_induction
          (motive := fun cs ms rest => Form cs (.members ms) rest) ?_ ?_ hms)
        · exact fun cs m rest hm => .lastMember (form_of_readMember ih hm)
        · exact fun cs m cs' ms rest hm hms => .members (form_of_readMember ih hm) hms
    | case4 =>
      intro h
      obtain h | ⟨-, h⟩ := Option.or_eq_some_iff.mp h
      · exact form_of_readWord h
      · obtain ⟨m, e, rfl, hform⟩ := numberForm_of_readNumber h
        exact .number hform

end Sound

section Complete

theorem Form.opens_of_element {cs rest : List Char} {v : Value} (h : Form cs (.element v) rest) :
    Opens (skipBlanks cs) := by
  cases h with
  | element before h after =>
    rw [h.opens.skipBlanks_eq before]
    exact h.opens

theorem Form.opens_of_elements {cs rest : List Char} {vs : List Value}
    (h : Form cs (.elements vs) rest) : Opens (skipBlanks cs) := by
  cases h with
  | lastElement h => exact h.opens_of_element
  | elements h _ => exact h.opens_of_element

theorem Form.opens_of_member {cs rest : List Char} {name : String} {v : Value}
    (h : Form cs (.member name v) rest) : Opens (skipBlanks cs) := by
  cases h with
  | @member cs cs₁ _ _ _ _ _ before hname after h =>
    have hopens : Opens ('"' :: cs₁) := ⟨_, _, rfl, by decide⟩
    rw [hopens.skipBlanks_eq before]
    exact hopens

theorem Form.opens_of_members {cs rest : List Char} {ms : List (String × Value)}
    (h : Form cs (.members ms) rest) : Opens (skipBlanks cs) := by
  cases h with
  | lastMember h => exact h.opens_of_member
  | members h _ => exact h.opens_of_member

theorem Opens.readClosed_eq {close : Char} {cs rest : List Char} {as : List α}
    (hopens : Opens (skipBlanks cs)) (hclose : close = ']' ∨ close = '}')
    (h : readParts part cs.length cs = some (as, close :: rest)) :
    readClosed part close cs = some (as, rest) := by
  obtain ⟨c, cs', hskip, -, hbracket, hbrace⟩ := hopens
  have hne : c ≠ close := by
    obtain rfl | rfl := hclose
    · exact hbracket
    · exact hbrace
  simp [readClosed, hskip, hne, h]

theorem Blanks.readClosed_eq {close : Char} {cs rest : List Char}
    (h : Blanks cs (close :: rest)) (hclose : isBlank close = false) :
    readClosed part close cs = some ([], rest) := by
  have hskip := h.skipBlanks_eq (by simpa using hclose)
  simp [readClosed, hskip]

theorem readParts_last {cs rest : List Char} {a : α} (hpart : part cs = some (a, rest))
    (hrest : rest.head? ≠ some ',') (n : Nat) : readParts part n cs = some ([a], rest) := by
  cases n <;> simp [readParts, hpart, hrest]

theorem readParts_more {cs cs' rest : List Char} {a : α} {as : List α} {n : Nat}
    (hpart : part cs = some (a, ',' :: cs')) (hmore : readParts part n cs' = some (as, rest)) :
    readParts part (n + 1) cs = some (a :: as, rest) := by
  simp [readParts, hpart, hmore]

/-- What the reader makes of a part of a document, given what comes next and as much fuel as there are
characters. -/
def ReadsPart (cs rest : List Char) : Part → Prop
  | .value v => EndsNumber rest → ∀ n, cs.length ≤ n → readValue n cs = some (v, rest)
  | .element v =>
    Closes rest → ∀ n, cs.length ≤ n → readElement (readValue n) cs = some (v, rest)
  | .elements vs => rest.head? = some ']' → ∀ n k, cs.length ≤ n → cs.length ≤ k →
    readParts (readElement (readValue n)) k cs = some (vs, rest)
  | .member name v =>
    Closes rest → ∀ n, cs.length ≤ n → readMember (readValue n) cs = some ((name, v), rest)
  | .members ms => rest.head? = some '}' → ∀ n k, cs.length ≤ n → cs.length ≤ k →
    readParts (readMember (readValue n)) k cs = some (ms, rest)

/-- Every part of a document is read as what it stands for. -/
theorem Form.readsPart {cs rest : List Char} {part : Part} (h : Form cs part rest) :
    ReadsPart cs rest part := by
  have hsucc {c : Char} {cs : List Char} {n : Nat} (hn : (c :: cs).length ≤ n) :
      ∃ m, n = m + 1 ∧ cs.length ≤ m := ⟨n - 1, by grind, by grind⟩
  induction h with
  | null => exact fun _ n _ => by simp [readValue_of_other, readWord]
  | true => exact fun _ n _ => by simp [readValue_of_other, readWord]
  | false => exact fun _ n _ => by simp [readValue_of_other, readWord]
  | number h => exact fun hrest n _ => h.readValue_eq hrest n
  | string h => exact fun _ n _ => by simp [readValue, readText_eq_some_iff.mpr h]
  | emptyArray h =>
    intro _ n hn
    obtain ⟨m, rfl, -⟩ := hsucc hn
    simp [readValue, h.readClosed_eq rfl]
  | array h ih =>
    intro _ n hn
    obtain ⟨m, rfl, hm⟩ := hsucc hn
    have hparts := ih rfl m _ hm (Nat.le_refl _)
    simp [readValue, h.opens_of_elements.readClosed_eq (.inl rfl) hparts]
  | emptyObject h =>
    intro _ n hn
    obtain ⟨m, rfl, -⟩ := hsucc hn
    simp [readValue, h.readClosed_eq rfl]
  | object h ih =>
    intro _ n hn
    obtain ⟨m, rfl, hm⟩ := hsucc hn
    have hparts := ih rfl m _ hm (Nat.le_refl _)
    simp [readValue, h.opens_of_members.readClosed_eq (.inr rfl) hparts]
  | element before h after ih =>
    intro hrest n hn
    have hlength := before.suffix.length_le
    have hvalue := ih (after.endsNumber hrest.endsNumber) n (by omega)
    simp [readElement, h.opens.skipBlanks_eq before, hvalue, hrest.skipBlanks_eq after]
  | lastElement h ih =>
    intro hrest n k hn _
    obtain ⟨rest, rfl⟩ := List.head?_eq_some_iff.mp hrest
    exact readParts_last (ih (closes_of_head (by simp)) n hn) (by simp) k
  | elements h more ih ihMore =>
    intro hrest n k hn hk
    obtain ⟨j, rfl, hj⟩ := hsucc (Nat.le_trans h.length_le hk)
    have hmore := Nat.le_trans (Nat.le_of_succ_le h.length_le) hn
    exact readParts_more (ih (closes_of_head (by simp)) n hn) (ihMore hrest n j hmore hj)
  | member before hname after h ih =>
    intro hrest n hn
    have hmark := before.skipBlanks_eq (by simp [isBlank])
    have hcolon := after.skipBlanks_eq (by simp [isBlank])
    have hbefore := before.suffix.length_le
    have hlength := hname.length_lt
    have hafter := after.suffix.length_le
    simp only [List.length_cons] at hbefore hafter
    have hvalue := ih hrest n (by omega)
    simp [readMember, hmark, readText_eq_some_iff.mpr hname, hcolon, hvalue]
  | lastMember h ih =>
    intro hrest n k hn _
    obtain ⟨rest, rfl⟩ := List.head?_eq_some_iff.mp hrest
    exact readParts_last (ih (closes_of_head (by simp)) n hn) (by simp) k
  | members h more ih ihMore =>
    intro hrest n k hn hk
    obtain ⟨j, rfl, hj⟩ := hsucc (Nat.le_trans h.length_le hk)
    have hmore := Nat.le_trans (Nat.le_of_succ_le h.length_le) hn
    exact readParts_more (ih (closes_of_head (by simp)) n hn) (ihMore hrest n j hmore hj)

end Complete

/-- A text is a document exactly if the reader reads all of it. -/
theorem read_eq_some_iff {text : List Char} {v : Value} :
    read text = some v ↔ Document text v := by
  constructor
  · intro h
    unfold read at h
    split at h
    · rename_i w hw
      obtain rfl := Option.some.inj h
      exact form_of_readElement form_of_readValue hw
    · contradiction
  · intro h
    have hread := Form.readsPart h (by simp [Closes]) text.length (Nat.le_refl _)
    rw [read, hread]

example : read "[-1.50e2, \"\\u00e9\"]\n".toList =
    some (.array [.number (-150) 0, .string "é"]) := by rfl

/-- No text is a document of two values. -/
theorem Document.unique {text : List Char} {v w : Value} (hv : Document text v)
    (hw : Document text w) : v = w :=
  Option.some.inj ((read_eq_some_iff.mpr hv).symm.trans (read_eq_some_iff.mpr hw))

end RollCall.Json
