import RollCall.Proofs.Json.Grammar

/-! A reader of documents. It accepts exactly the texts of the grammar, so that a document stands for
one value only. -/
namespace RollCall.Json

def skipBlanks (cs : List Char) : List Char := cs.dropWhile isBlank

def readUnit : List Char → Option (Nat × List Char)
  | c₁ :: c₂ :: c₃ :: c₄ :: rest => do
    let n₁ ← hexValue? c₁
    let n₂ ← hexValue? c₂
    let n₃ ← hexValue? c₃
    let n₄ ← hexValue? c₄
    return (4096 * n₁ + 256 * n₂ + 16 * n₃ + n₄, rest)
  | _ => none

instance (n : Nat) : Decidable (IsHigh n) := inferInstanceAs (Decidable (_ ∧ _))

instance (n : Nat) : Decidable (IsLow n) := inferInstanceAs (Decidable (_ ∧ _))

def readLow (high : Nat) : List Char → Option (Char × List Char)
  | '\\' :: 'u' :: cs => do
    let (low, rest) ← readUnit cs
    if IsHigh high ∧ IsLow low then some (joined high low, rest) else none
  | _ => none

def readChar : List Char → Option (Char × List Char)
  | '\\' :: 'u' :: cs => do
    let (n, rest) ← readUnit cs
    if n.isValidChar then some (Char.ofNat n, rest) else readLow n rest
  | '\\' :: e :: rest => (escapes.lookup e).map fun c => (c, rest)
  | c :: rest => if 0x20 ≤ c.toNat ∧ c ≠ '"' ∧ c ≠ '\\' then some (c, rest) else none
  | [] => none

/-- The characters up to the closing quotation mark, at most as many as there is fuel for. -/
def readChars : Nat → List Char → Option (List Char × List Char)
  | _, '"' :: rest => some ([], rest)
  | 0, _ => none
  | n + 1, cs => do
    let (c, cs) ← readChar cs
    let (s, rest) ← readChars n cs
    return (c :: s, rest)

def readText (cs : List Char) : Option (String × List Char) :=
  (readChars cs.length cs).map fun (s, rest) => (String.ofList s, rest)

def readDigits (cs : List Char) : Option (List Char × List Char) :=
  if cs.takeWhile Char.isDigit = [] then none
  else some (cs.takeWhile Char.isDigit, cs.dropWhile Char.isDigit)

def readFraction : List Char → Option (List Char × List Char)
  | '.' :: cs => readDigits cs
  | cs => some ([], cs)

def readSigned : List Char → Option (Int × List Char)
  | '+' :: cs => (readDigits cs).map fun (digits, rest) => (Nat.ofDigitChars 10 digits 0, rest)
  | '-' :: cs => (readDigits cs).map fun (digits, rest) => (-Nat.ofDigitChars 10 digits 0, rest)
  | cs => (readDigits cs).map fun (digits, rest) => (Nat.ofDigitChars 10 digits 0, rest)

def readExponent : List Char → Option (Int × List Char)
  | e :: cs => if e = 'e' ∨ e = 'E' then readSigned cs else some (0, e :: cs)
  | [] => some (0, [])

def readMagnitude (cs : List Char) : Option (Nat × Int × List Char) := do
  let (whole, cs) ← readDigits cs
  if whole.head? = some '0' ∧ whole ≠ ['0'] then none
  let (fraction, cs) ← readFraction cs
  let (exponent, rest) ← readExponent cs
  return (Nat.ofDigitChars 10 (whole ++ fraction) 0, exponent - fraction.length, rest)

def readNumber : List Char → Option (Value × List Char)
  | '-' :: cs => (readMagnitude cs).map fun (m, e, rest) => (.number (-m) e, rest)
  | cs => (readMagnitude cs).map fun (m, e, rest) => (.number m e, rest)

def readWord (cs : List Char) : Option (Value × List Char) :=
  if "null".toList <+: cs then some (.null, cs.drop 4)
  else if "true".toList <+: cs then some (.bool true, cs.drop 4)
  else if "false".toList <+: cs then some (.bool false, cs.drop 5)
  else none

section Parts

variable {α : Type}

/-- One or more parts with commas between them, and at most as many commas as there is fuel for. -/
def readParts (part : List Char → Option (α × List Char)) :
    Nat → List Char → Option (List α × List Char)
  | 0, cs => (part cs).map fun (a, rest) => ([a], rest)
  | n + 1, cs => do
    let (a, rest) ← part cs
    if rest.head? = some ',' then do
      let (as, rest) ← readParts part n rest.tail
      return (a :: as, rest)
    else return ([a], rest)

/-- The parts up to a bracket that closes, or nothing before it. -/
def readClosed (part : List Char → Option (α × List Char)) (close : Char) (cs : List Char) :
    Option (List α × List Char) :=
  if (skipBlanks cs).head? = some close then some ([], (skipBlanks cs).tail)
  else do
    let (as, rest) ← readParts part cs.length cs
    if rest.head? = some close then some (as, rest.tail) else none

end Parts

def readElement (value : List Char → Option (Value × List Char)) (cs : List Char) :
    Option (Value × List Char) :=
  (value (skipBlanks cs)).map fun (v, rest) => (v, skipBlanks rest)

def readMember (value : List Char → Option (Value × List Char)) (cs : List Char) :
    Option ((String × Value) × List Char) :=
  match skipBlanks cs with
  | '"' :: cs => do
    let (name, cs) ← readText cs
    match skipBlanks cs with
    | ':' :: cs => (readElement value cs).map fun (v, rest) => ((name, v), rest)
    | _ => none
  | _ => none

/-- A value; arrays and objects lie in each other at most as deep as there is fuel for. -/
def readValue : Nat → List Char → Option (Value × List Char)
  | _, '"' :: cs => (readText cs).map fun (s, rest) => (.string s, rest)
  | n + 1, '[' :: cs =>
    (readClosed (readElement (readValue n)) ']' cs).map fun (vs, rest) => (.array vs, rest)
  | n + 1, '{' :: cs =>
    (readClosed (readMember (readValue n)) '}' cs).map fun (ms, rest) => (.object ms, rest)
  | _, cs => (readWord cs).or (readNumber cs)

/-- The value of a document. There are fewer brackets and commas than characters. -/
def read (text : List Char) : Option Value :=
  match readElement (readValue text.length) text with
  | some (v, []) => some v
  | _ => none

section Strings

theorem readUnit_eq_some_iff {cs rest : List Char} {n : Nat} :
    readUnit cs = some (n, rest) ↔ UnitForm cs n rest := by
  constructor
  · intro h
    unfold readUnit at h
    split at h
    · simp only [Option.bind_eq_bind, Option.bind_eq_some_iff, Option.pure_def, Option.some.injEq,
        Prod.mk.injEq] at h
      obtain ⟨n₁, h₁, n₂, h₂, n₃, h₃, n₄, h₄, rfl, rfl⟩ := h
      exact .digits h₁ h₂ h₃ h₄
    · contradiction
  · rintro ⟨h₁, h₂, h₃, h₄⟩
    simp only [readUnit, h₁, h₂, h₃, h₄]
    rfl

theorem mem_escapes_iff {e c : Char} : (e, c) ∈ escapes ↔ escapes.lookup e = some c := by
  constructor
  · intro h
    have hlookup : ∀ p ∈ escapes, escapes.lookup p.1 = some p.2 := by decide
    exact hlookup _ h
  · intro h
    obtain ⟨before, after, heq, -⟩ := List.lookup_eq_some_iff.mp h
    simp [heq]

theorem ne_u_of_mem_escapes {e c : Char} (h : (e, c) ∈ escapes) : e ≠ 'u' := by
  have hne : ∀ p ∈ escapes, p.1 ≠ 'u' := by decide
  exact hne _ h

theorem readLow_eq_some_iff {high : Nat} {cs rest : List Char} {c : Char} :
    readLow high cs = some (c, rest) ↔
      ∃ low cs', cs = '\\' :: 'u' :: cs' ∧ UnitForm cs' low rest ∧ IsHigh high ∧ IsLow low ∧
        c = joined high low := by
  constructor
  · intro h
    unfold readLow at h
    split at h
    · simp only [Option.bind_eq_bind, Option.bind_eq_some_iff, Prod.exists] at h
      obtain ⟨low, rest', hunit, h⟩ := h
      split at h
      · rename_i hpair
        simp only [Option.some.injEq, Prod.mk.injEq] at h
        obtain ⟨rfl, rfl⟩ := h
        exact ⟨low, _, rfl, readUnit_eq_some_iff.mp hunit, hpair.1, hpair.2, rfl⟩
      · contradiction
    · contradiction
  · rintro ⟨low, cs', rfl, hunit, hhigh, hlow, hc⟩
    simp [hc, readLow, readUnit_eq_some_iff.mpr hunit, hhigh, hlow]

theorem not_isValidChar_of_isHigh {n : Nat} (h : IsHigh n) : ¬ n.isValidChar := by
  unfold IsHigh at h
  unfold Nat.isValidChar
  omega

theorem readChar_eq_some_iff {cs rest : List Char} {c : Char} :
    readChar cs = some (c, rest) ↔ CharForm cs c rest := by
  constructor
  · intro h
    unfold readChar at h
    split at h
    · simp only [Option.bind_eq_bind, Option.bind_eq_some_iff, Prod.exists] at h
      obtain ⟨n, rest', hunit, h⟩ := h
      have hform := readUnit_eq_some_iff.mp hunit
      split at h
      · rename_i hn
        simp only [Option.some.injEq, Prod.mk.injEq] at h
        obtain ⟨rfl, rfl⟩ := h
        exact .number hform hn
      · obtain ⟨low, cs', rfl, hlow, hhigh, hislow, hc⟩ := readLow_eq_some_iff.mp h
        rw [hc]
        exact .numbers hform hhigh hlow hislow
    · simp only [Option.map_eq_some_iff, Prod.mk.injEq] at h
      obtain ⟨c', hc', rfl, rfl⟩ := h
      exact .letter (mem_escapes_iff.mpr hc')
    · split at h
      · rename_i hc
        simp only [Option.some.injEq, Prod.mk.injEq] at h
        obtain ⟨rfl, rfl⟩ := h
        exact .plain hc.1 hc.2.1 hc.2.2
      · contradiction
    · contradiction
  · intro h
    cases h with
    | plain hc hq hb =>
      unfold readChar
      split <;> simp_all
    | letter h =>
      have hu := ne_u_of_mem_escapes h
      rw [readChar]
      · simp [mem_escapes_iff.mp h]
      · exact hu
    | number h hn => simp [readChar, readUnit_eq_some_iff.mpr h, hn]
    | numbers h hhigh h' hlow =>
      have hpair := readLow_eq_some_iff.mpr ⟨_, _, rfl, h', hhigh, hlow, rfl⟩
      simp [readChar, readUnit_eq_some_iff.mpr h, not_isValidChar_of_isHigh hhigh, hpair]

theorem CharForm.not_mark {cs rest : List Char} {c : Char} (h : CharForm cs c rest) :
    cs.head? ≠ some '"' := by
  cases h with
  | plain hc hq hb => simpa using hq
  | letter h => simp
  | number h hn => simp
  | numbers h hhigh h' hlow => simp

theorem charsForm_of_readChars {n : Nat} {cs s rest : List Char}
    (h : readChars n cs = some (s, rest)) : CharsForm cs s rest := by
  induction n generalizing cs s with
  | zero =>
    unfold readChars at h
    split at h
    · cases h
      exact .done
    · contradiction
    · contradiction
  | succ n ih =>
    unfold readChars at h
    split at h
    · cases h
      exact .done
    · contradiction
    · rename_i heq _
      cases heq
      simp only [Option.bind_eq_bind, Option.bind_eq_some_iff, Prod.exists] at h
      obtain ⟨c, cs', hc, s', rest', hs, h⟩ := h
      cases h
      exact .more (readChar_eq_some_iff.mp hc) (ih hs)

/-- As much fuel as there are characters is enough. -/
theorem CharsForm.readChars_eq {cs s rest : List Char} (h : CharsForm cs s rest) {n : Nat}
    (hn : cs.length ≤ n) : readChars n cs = some (s, rest) := by
  induction h generalizing n with
  | done => simp [readChars]
  | more hc _ ih =>
    have hmark := hc.not_mark
    have hlength := hc.length_lt
    cases n with
    | zero => omega
    | succ n =>
      rw [readChars]
      · have hread := @ih n (by omega)
        simp [readChar_eq_some_iff.mpr hc, hread]
      · rintro rest rfl
        simp at hmark

theorem readText_eq_some_iff {cs rest : List Char} {s : String} :
    readText cs = some (s, rest) ↔ CharsForm cs s.toList rest := by
  simp only [readText, Option.map_eq_some_iff, Prod.mk.injEq, Prod.exists]
  constructor
  · rintro ⟨l, rest', h, rfl, rfl⟩
    rw [String.toList_ofList]
    exact charsForm_of_readChars h
  · intro h
    exact ⟨s.toList, rest, h.readChars_eq (Nat.le_refl _), String.ofList_toList, rfl⟩

end Strings

section Numbers

def NoDigit (rest : List Char) : Prop := ∀ c ∈ rest.head?, c.isDigit = false

def EndsNumber (rest : List Char) : Prop :=
  ∀ c ∈ rest.head?, c.isDigit = false ∧ c ≠ '.' ∧ c ≠ 'e' ∧ c ≠ 'E'

theorem EndsNumber.noDigit {rest : List Char} (h : EndsNumber rest) : NoDigit rest :=
  fun c hc => (h c hc).1

theorem digitsForm_of_readDigits {cs digits rest : List Char}
    (h : readDigits cs = some (digits, rest)) : DigitsForm cs digits rest := by
  unfold readDigits at h
  split at h
  · contradiction
  · rename_i hne
    simp only [Option.some.injEq, Prod.mk.injEq] at h
    obtain ⟨rfl, rfl⟩ := h
    exact ⟨List.takeWhile_append_dropWhile.symm, hne, List.all_eq_true.mp List.all_takeWhile⟩

theorem DigitsForm.readDigits_eq {cs digits rest : List Char} (h : DigitsForm cs digits rest)
    (hrest : NoDigit rest) : readDigits cs = some (digits, rest) := by
  obtain ⟨rfl, hne, hdigits⟩ := h
  have hnone : rest.takeWhile Char.isDigit = [] := by
    cases rest with
    | nil => rfl
    | cons c rest => simp [hrest c rfl]
  have htake : (digits ++ rest).takeWhile Char.isDigit = digits := by
    rw [List.takeWhile_append_of_pos hdigits, hnone, List.append_nil]
  have hdrop : (digits ++ rest).dropWhile Char.isDigit = rest := by
    rw [List.dropWhile_append_of_pos hdigits]
    cases rest with
    | nil => rfl
    | cons c rest => simp [hrest c rfl]
  rw [readDigits, htake, hdrop, if_neg hne]

theorem DigitsForm.head {cs digits rest : List Char} (h : DigitsForm cs digits rest) :
    ∃ c cs', cs = c :: cs' ∧ c.isDigit = true := by
  obtain ⟨rfl, hne, hdigits⟩ := h
  obtain ⟨c, digits', rfl⟩ := List.exists_cons_of_ne_nil hne
  exact ⟨c, digits' ++ rest, rfl, hdigits c (by simp)⟩

theorem fractionForm_of_readFraction {cs fraction rest : List Char}
    (h : readFraction cs = some (fraction, rest)) : FractionForm cs fraction rest := by
  unfold readFraction at h
  split at h
  · exact .point (digitsForm_of_readDigits h)
  · simp only [Option.some.injEq, Prod.mk.injEq] at h
    obtain ⟨rfl, rfl⟩ := h
    exact .without

/-- After the fraction no digit may follow, nor a point unless there was one. -/
theorem FractionForm.readFraction_eq {cs fraction rest : List Char}
    (h : FractionForm cs fraction rest) (hrest : NoDigit rest) (hpoint : rest.head? ≠ some '.') :
    readFraction cs = some (fraction, rest) := by
  cases h with
  | without =>
    rw [readFraction]
    rintro cs rfl
    simp at hpoint
  | point h => rw [readFraction, h.readDigits_eq hrest]

theorem FractionForm.noDigit {cs fraction rest : List Char} (h : FractionForm cs fraction rest)
    (hrest : NoDigit rest) : NoDigit cs := by
  cases h with
  | without => exact hrest
  | point _ =>
    rintro c ⟨⟩
    decide

theorem exponentForm_of_readExponent {cs rest : List Char} {exponent : Int}
    (h : readExponent cs = some (exponent, rest)) : ExponentForm cs exponent rest := by
  unfold readExponent at h
  split at h
  · split at h
    · rename_i he
      unfold readSigned at h
      split at h <;>
        simp only [Option.map_eq_some_iff, Prod.mk.injEq, Prod.exists] at h <;>
        obtain ⟨digits, rest', hdigits, rfl, rfl⟩ := h
      · exact .plus he (digitsForm_of_readDigits hdigits)
      · exact .minus he (digitsForm_of_readDigits hdigits)
      · exact .unsigned he (digitsForm_of_readDigits hdigits)
    · simp only [Option.some.injEq, Prod.mk.injEq] at h
      obtain ⟨rfl, rfl⟩ := h
      exact .without
  · simp only [Option.some.injEq, Prod.mk.injEq] at h
    obtain ⟨rfl, rfl⟩ := h
    exact .without

theorem DigitsForm.readSigned_eq {cs digits rest : List Char} (h : DigitsForm cs digits rest)
    (hrest : NoDigit rest) : readSigned cs = some ((Nat.ofDigitChars 10 digits 0 : Int), rest) := by
  obtain ⟨c, cs', rfl, hc⟩ := h.head
  rw [readSigned, h.readDigits_eq hrest]
  · rfl
  all_goals
    rintro cs ⟨⟩
    simp at hc

theorem ExponentForm.readExponent_eq {cs rest : List Char} {exponent : Int}
    (h : ExponentForm cs exponent rest) (hrest : EndsNumber rest) :
    readExponent cs = some (exponent, rest) := by
  cases h with
  | without =>
    cases cs with
    | nil => rfl
    | cons e cs =>
      obtain ⟨-, -, he, hE⟩ := hrest e rfl
      simp [readExponent, he, hE]
  | unsigned he h => simp [readExponent, he, h.readSigned_eq hrest.noDigit]
  | plus he h => simp [readExponent, he, readSigned, h.readDigits_eq hrest.noDigit]
  | minus he h => simp [readExponent, he, readSigned, h.readDigits_eq hrest.noDigit]

theorem ExponentForm.noDigit {cs rest : List Char} {exponent : Int}
    (h : ExponentForm cs exponent rest) (hrest : EndsNumber rest) :
    NoDigit cs ∧ cs.head? ≠ some '.' := by
  have hletter {e : Char} {cs : List Char} (he : e = 'e' ∨ e = 'E') :
      NoDigit (e :: cs) ∧ (e :: cs).head? ≠ some '.' := by
    obtain rfl | rfl := he <;> simp [NoDigit]
  cases h with
  | without => exact ⟨hrest.noDigit, fun h => (hrest _ h).2.1 rfl⟩
  | unsigned he _ => exact hletter he
  | plus he _ => exact hletter he
  | minus he _ => exact hletter he

theorem magnitudeForm_of_readMagnitude {cs rest : List Char} {m : Nat} {e : Int}
    (h : readMagnitude cs = some (m, e, rest)) : MagnitudeForm cs m e rest := by
  simp only [readMagnitude, Option.bind_eq_bind, Option.bind_eq_some_iff, Prod.exists] at h
  obtain ⟨whole, cs₁, hwhole, h⟩ := h
  split at h
  · simp at h
  · rename_i hzero
    simp only [Option.bind_eq_some_iff, Prod.exists, Option.pure_def, Option.some.injEq,
      Prod.mk.injEq] at h
    obtain ⟨fraction, cs₂, hfraction, exponent, rest', hexponent, rfl, rfl, rfl⟩ := h
    refine .parts (digitsForm_of_readDigits hwhole) ?_ (fractionForm_of_readFraction hfraction)
      (exponentForm_of_readExponent hexponent)
    exact fun hhead => Decidable.byContradiction fun hne => hzero ⟨hhead, hne⟩

theorem MagnitudeForm.readMagnitude_eq {cs rest : List Char} {m : Nat} {e : Int}
    (h : MagnitudeForm cs m e rest) (hrest : EndsNumber rest) :
    readMagnitude cs = some (m, e, rest) := by
  obtain ⟨hwhole, hzero, hfraction, hexponent⟩ := h
  obtain ⟨hdigit, hpoint⟩ := hexponent.noDigit hrest
  have hsome := hwhole.readDigits_eq (hfraction.noDigit hdigit)
  simp [readMagnitude, hsome, hfraction.readFraction_eq hdigit hpoint,
    hexponent.readExponent_eq hrest]
  exact hzero

theorem MagnitudeForm.head {cs rest : List Char} {m : Nat} {e : Int}
    (h : MagnitudeForm cs m e rest) : ∃ c cs', cs = c :: cs' ∧ c.isDigit = true := by
  obtain ⟨hwhole, -, -, -⟩ := h
  exact hwhole.head

theorem numberForm_of_readNumber {cs rest : List Char} {v : Value}
    (h : readNumber cs = some (v, rest)) : ∃ m e, v = .number m e ∧ NumberForm cs m e rest := by
  unfold readNumber at h
  split at h <;> simp only [Option.map_eq_some_iff, Prod.mk.injEq, Prod.exists] at h <;>
    obtain ⟨m, e, rest', hm, rfl, rfl⟩ := h
  · exact ⟨-m, e, rfl, .negative (magnitudeForm_of_readMagnitude hm)⟩
  · exact ⟨m, e, rfl, .positive (magnitudeForm_of_readMagnitude hm)⟩

theorem NumberForm.readNumber_eq {cs rest : List Char} {m e : Int} (h : NumberForm cs m e rest)
    (hrest : EndsNumber rest) : readNumber cs = some (.number m e, rest) := by
  cases h with
  | positive h =>
    obtain ⟨c, cs', rfl, hc⟩ := h.head
    rw [readNumber, h.readMagnitude_eq hrest]
    · rfl
    · rintro cs ⟨⟩
      simp at hc
  | negative h => simp [readNumber, h.readMagnitude_eq hrest]

theorem NumberForm.head {cs rest : List Char} {m e : Int} (h : NumberForm cs m e rest) :
    ∃ c cs', cs = c :: cs' ∧ (c = '-' ∨ c.isDigit = true) := by
  cases h with
  | positive h =>
    obtain ⟨c, cs', rfl, hc⟩ := h.head
    exact ⟨c, cs', rfl, .inr hc⟩
  | negative h => exact ⟨'-', _, rfl, .inl rfl⟩

end Numbers

end RollCall.Json
