import RollCall.Proofs.Text.LowerCase
import RollCall.Settings.Scalar

/-! Which texts come back unchanged where a text is asked for, after they were taken as a truth
value, an integer, a number of double precision or a text. -/
namespace RollCall.Settings

def InRange (i : Int) : Prop := Int64.minValue.toInt ≤ i ∧ i ≤ Int64.maxValue.toInt

theorem digitsValue_toDigits (n : Nat) : digitsValue (Nat.toDigits 10 n) = n :=
  Nat.ofDigitChars_ten_toDigits

theorem all_isDigit_toDigits (n : Nat) : (Nat.toDigits 10 n).all Char.isDigit = true := by
  rw [List.all_eq_true]
  exact fun c hc => Nat.isDigit_of_mem_toDigits (by decide) (by decide) hc

theorem cutSign_of_isDigit {c : Char} (h : c.isDigit = true) (cs : List Char) :
    cutSign (c :: cs) = (false, c :: cs) := by
  unfold cutSign
  split
  next heq =>
    obtain ⟨rfl, -⟩ := List.cons.inj heq
    contradiction
  next heq =>
    obtain ⟨rfl, -⟩ := List.cons.inj heq
    contradiction
  next => rfl

theorem cutSign_toDigits (n : Nat) : cutSign (Nat.toDigits 10 n) = (false, Nat.toDigits 10 n) := by
  have hall := all_isDigit_toDigits n
  cases hdigits : Nat.toDigits 10 n with
  | nil => exact absurd hdigits Nat.toDigits_ne_nil
  | cons c cs =>
    rw [hdigits, List.all_cons, Bool.and_eq_true] at hall
    exact cutSign_of_isDigit hall.1 cs

/-- What is written for an integer is a sign if it is negative, and its digits. -/
theorem cutSign_writeInteger (i : Int) :
    cutSign (writeInteger i) = (decide (i < 0), Nat.toDigits 10 i.natAbs) := by
  unfold writeInteger
  by_cases h : i < 0
  · simp only [h, if_true, decide_true]
    rfl
  · simp only [h, if_false, decide_false]
    exact cutSign_toDigits i.natAbs

/-- An integer of 64 bits is read back from its digits. -/
theorem readInteger?_writeInteger {i : Int} (h : InRange i) :
    readInteger? (writeInteger i) = some i := by
  have hsigned : (if decide (i < 0) then -(i.natAbs : Int) else i.natAbs) = i := by
    by_cases hneg : i < 0
    · simp only [hneg, decide_true, if_true]
      omega
    · simp only [hneg, decide_false, Bool.false_eq_true, if_false]
      omega
  have hdigits : ¬ ((Nat.toDigits 10 i.natAbs).isEmpty = true ∨
      (!(Nat.toDigits 10 i.natAbs).all Char.isDigit) = true) := by
    rw [all_isDigit_toDigits, List.isEmpty_iff]
    simp only [Nat.toDigits_ne_nil, Bool.not_true, Bool.false_eq_true, or_self, not_false_eq_true]
  unfold readInteger?
  simp only [cutSign_writeInteger, digitsValue_toDigits, hsigned]
  rw [if_neg hdigits]
  exact if_pos h

/-- Letters, digits, signs and the point are the characters of truth values and numbers. -/
def isScalarChar (c : Char) : Bool := c.isAlphanum || c = '+' || c = '-' || c = '.'

theorem isScalarChar_of_isDigit {c : Char} (h : c.isDigit = true) : isScalarChar c = true := by
  simp [isScalarChar, Char.isAlphanum, h]

variable {c : Char} {cs : List Char}

theorem mem_cutSign (h : c ∈ cs) : c = '+' ∨ c = '-' ∨ c ∈ (cutSign cs).2 := by
  unfold cutSign
  split
  · rcases List.mem_cons.mp h with h | h
    · exact Or.inr (Or.inl h)
    · exact Or.inr (Or.inr h)
  · rcases List.mem_cons.mp h with h | h
    · exact Or.inl h
    · exact Or.inr (Or.inr h)
  · exact Or.inr (Or.inr h)

theorem mem_of_mem_cutSign (h : c ∈ (cutSign cs).2) : c ∈ cs := by
  unfold cutSign at h
  split at h
  · exact List.mem_cons_of_mem _ h
  · exact List.mem_cons_of_mem _ h
  · exact h

theorem isScalarChar_of_cutSign (hbody : ∀ c ∈ (cutSign cs).2, isScalarChar c = true) (h : c ∈ cs) :
    isScalarChar c = true := by
  rcases mem_cutSign h with rfl | rfl | h
  · rfl
  · rfl
  · exact hbody c h

theorem isDigit_of_readInteger? {i : Int} (h : readInteger? cs = some i) :
    (cutSign cs).2 ≠ [] ∧ ∀ c ∈ (cutSign cs).2, c.isDigit = true := by
  unfold readInteger? at h
  dsimp only at h
  split at h
  · contradiction
  next hdigits =>
    simp only [List.isEmpty_iff, Bool.not_eq_true', not_or, Bool.not_eq_false,
      List.all_eq_true] at hdigits
    exact hdigits

theorem isScalarChar_of_readInteger? {i : Int} (h : readInteger? cs = some i) (hc : c ∈ cs) :
    isScalarChar c = true :=
  isScalarChar_of_cutSign
    (fun c hc => isScalarChar_of_isDigit ((isDigit_of_readInteger? h).2 c hc)) hc

theorem isScalarChar_of_readExponent? {e : Int} (h : readExponent? cs = some e) (hc : c ∈ cs) :
    isScalarChar c = true := by
  unfold readExponent? at h
  split at h
  · contradiction
  next x rest =>
    split at h
    next hx =>
      rcases List.mem_cons.mp hc with rfl | hc
      · rcases hx with rfl | rfl <;> rfl
      · dsimp only at h
        split at h
        · contradiction
        next hdigits =>
          simp only [List.isEmpty_iff, Bool.not_eq_true', not_or, Bool.not_eq_false,
            List.all_eq_true] at hdigits
          exact isScalarChar_of_cutSign (fun c hc => isScalarChar_of_isDigit (hdigits.2 c hc)) hc
    next => contradiction

private theorem isDigit_of_mem_takeWhile (h : c ∈ cs.takeWhile Char.isDigit) : c.isDigit = true :=
  List.all_eq_true.mp List.all_takeWhile c h

/-- A number of double precision is a word, or digits with at most one point and an exponent. -/
theorem form_of_readDecimal? {d : Binary64} (h : readDecimal? cs = some d) :
    (cutSign cs).2.map Char.toLower ∈ ["inf".toList, "infinity".toList, "nan".toList] ∨
    ∃ whole point part rest e, (cutSign cs).2 = whole ++ (point ++ (part ++ rest)) ∧
      (∀ c ∈ point, c = '.') ∧ (∀ c ∈ whole ++ part, c.isDigit = true) ∧ whole ++ part ≠ [] ∧
      readExponent? rest = some e := by
  unfold readDecimal? at h
  generalize cutSign cs = cut at h ⊢
  obtain ⟨negative, body⟩ := cut
  dsimp only at h ⊢
  split at h
  next hword =>
    rcases hword with hword | hword
    · exact Or.inl (by rw [hword]; decide)
    · exact Or.inl (by rw [hword]; decide)
  split at h
  next hword => exact Or.inl (by rw [hword]; decide)
  refine Or.inr ?_
  have hbody : body.takeWhile Char.isDigit ++ body.dropWhile Char.isDigit = body :=
    List.takeWhile_append_dropWhile
  split at h
  next part hpoint =>
    dsimp only at h
    split at h
    · contradiction
    next hdigits =>
      obtain ⟨e, he, -⟩ := Option.map_eq_some_iff.mp h
      refine ⟨body.takeWhile Char.isDigit, ['.'], part.takeWhile Char.isDigit,
        part.dropWhile Char.isDigit, e, ?_, by simp, ?_, ?_, he⟩
      · rw [List.takeWhile_append_dropWhile]
        rw [hpoint] at hbody
        exact hbody.symm
      · intro c hc
        rcases List.mem_append.mp hc with hc | hc
        · exact isDigit_of_mem_takeWhile hc
        · exact isDigit_of_mem_takeWhile hc
      · intro hnil
        rw [List.append_eq_nil_iff] at hnil
        exact hdigits (by simp only [hnil, List.isEmpty_nil, and_self])
  next =>
    dsimp only at h
    split at h
    · contradiction
    next hdigits =>
      obtain ⟨e, he, -⟩ := Option.map_eq_some_iff.mp h
      refine ⟨body.takeWhile Char.isDigit, [], [], body.dropWhile Char.isDigit, e, hbody.symm,
        by simp, ?_, ?_, he⟩
      · intro c hc
        rw [List.append_nil] at hc
        exact isDigit_of_mem_takeWhile hc
      · intro hnil
        rw [List.append_nil] at hnil
        exact hdigits (by simp only [hnil, List.isEmpty_nil, and_self])

theorem isScalarChar_of_readDecimal? {d : Binary64} (h : readDecimal? cs = some d) (hc : c ∈ cs) :
    isScalarChar c = true := by
  refine isScalarChar_of_cutSign (fun c hc => ?_) hc
  rcases form_of_readDecimal? h with
    hword | ⟨whole, point, part, rest, e, hbody, hpoint, hdigits, -, he⟩
  · have hlower : c.toLower ∈ (cutSign cs).2.map Char.toLower := List.mem_map_of_mem hc
    have hwords : ["inf".toList, "infinity".toList, "nan".toList].all (·.all Char.isAlpha) = true :=
      rfl
    have halpha : c.toLower.isAlpha = true :=
      List.all_eq_true.mp (List.all_eq_true.mp hwords _ hword) _ hlower
    simp [isScalarChar, Char.isAlphanum, LowerCase.isAlpha_of_toLower halpha]
  · rw [hbody] at hc
    simp only [List.mem_append] at hc hdigits
    rcases hc with hc | hc | hc | hc
    · exact isScalarChar_of_isDigit (hdigits c (Or.inl hc))
    · rw [hpoint c hc]
      rfl
    · exact isScalarChar_of_isDigit (hdigits c (Or.inr hc))
    · exact isScalarChar_of_readExponent? he hc

/-- Every number has a digit or the letter that the words for infinities and for no number share. -/
theorem exists_mem_of_readDecimal? {d : Binary64} (h : readDecimal? cs = some d) :
    ∃ c ∈ cs, c.isDigit = true ∨ c.toLower = 'n' := by
  rcases form_of_readDecimal? h with
    hword | ⟨whole, point, part, rest, e, hbody, -, hdigits, hne, -⟩
  · have hn : 'n' ∈ (cutSign cs).2.map Char.toLower := by
      have hwords : ∀ word ∈ ["inf".toList, "infinity".toList, "nan".toList], 'n' ∈ word := by
        decide
      exact hwords _ hword
    obtain ⟨c, hc, hlower⟩ := List.mem_map.mp hn
    exact ⟨c, mem_of_mem_cutSign hc, Or.inr hlower⟩
  · obtain ⟨c, hc⟩ := List.exists_mem_of_ne_nil _ hne
    refine ⟨c, mem_of_mem_cutSign ?_, Or.inl (hdigits c hc)⟩
    rw [hbody]
    simp only [List.mem_append] at hc ⊢
    rcases hc with hc | hc
    · exact Or.inl hc
    · exact Or.inr (Or.inr (Or.inl hc))

/-- The words for truth values are letters of ASCII, in any case. -/
theorem readBoolean?_eq_none {s : String} (h : c.toNat < 0x80) (hc : c ∈ s.toList)
    (hne : c.toLower ∉ "truefalse".toList) : readBoolean? s = none := by
  have hmem := LowerCase.toLower_mem_ofText h hc
  unfold readBoolean?
  dsimp only
  have htrue : LowerCase.ofText s ≠ "true" := by
    intro e
    rw [e] at hmem
    exact hne (List.mem_append_left "false".toList hmem)
  have hfalse : LowerCase.ofText s ≠ "false" := by
    intro e
    rw [e] at hmem
    exact hne (List.mem_append_right "true".toList hmem)
  rw [if_neg htrue, if_neg hfalse]

theorem readBoolean?_of_isDigit {s : String} (h : c.isDigit = true) (hc : c ∈ s.toList) :
    readBoolean? s = none := by
  have hle : c.toNat ≤ '9'.toNat := by
    simp only [Char.isDigit, Bool.and_eq_true, decide_eq_true_eq] at h
    exact UInt32.le_iff_toNat_le.mp h.2
  have hlower : c.toLower = c := by
    unfold Char.toLower
    rw [dif_neg]
    rintro ⟨hupper, -⟩
    have hge : 'A'.toNat ≤ c.toNat := UInt32.le_iff_toNat_le.mp hupper
    exact absurd (Nat.le_trans hge hle) (by decide)
  have hletters : "truefalse".toList.all (!·.isDigit) = true := rfl
  refine readBoolean?_eq_none (Nat.lt_of_le_of_lt hle (by decide)) hc fun hmem => ?_
  rw [hlower] at hmem
  have hdigit := List.all_eq_true.mp hletters c hmem
  rw [h] at hdigit
  contradiction

theorem readBoolean?_of_readInteger? {s : String} {i : Int} (h : readInteger? s.toList = some i) :
    readBoolean? s = none := by
  obtain ⟨hne, hdigits⟩ := isDigit_of_readInteger? h
  obtain ⟨c, hc⟩ := List.exists_mem_of_ne_nil _ hne
  exact readBoolean?_of_isDigit (hdigits c hc) (mem_of_mem_cutSign hc)

theorem readBoolean?_of_readDecimal? {s : String} {d : Binary64}
    (h : readDecimal? s.toList = some d) : readBoolean? s = none := by
  obtain ⟨c, hc, hdigit | hn⟩ := exists_mem_of_readDecimal? h
  · exact readBoolean?_of_isDigit hdigit hc
  · refine readBoolean?_eq_none (LowerCase.lt_of_toLower_lt ?_) hc ?_
    · rw [hn]
      decide
    · rw [hn]
      decide

/-- A text that comes back as it was written: the name of a truth value, the digits of an integer of
64 bits, the shortest digits of another number of double precision, or none of these. -/
inductive Verbatim (s : String) : Prop
  | boolean (b : Bool) (h : s = (Scalar.boolean b).asText)
  | integer (i : Int) (range : InRange i) (h : s.toList = writeInteger i)
  | decimal (d : Binary64) (read : readDecimal? s.toList = some d)
      (notInteger : readInteger? s.toList = none) (written : d.written = s.toList)
  | text (notBoolean : readBoolean? s = none) (notInteger : readInteger? s.toList = none)
      (notDecimal : readDecimal? s.toList = none)

theorem inRange_of_readInteger? {i : Int} (h : readInteger? cs = some i) : InRange i := by
  unfold readInteger? at h
  dsimp only at h
  split at h
  · contradiction
  · generalize (if (cutSign cs).1 = true then _ else _ : Int) = n at h
    split at h
    next hrange =>
      obtain rfl := Option.some.inj h
      exact hrange
    next => contradiction

theorem ofText_of_readInteger? {s : String} {i : Int} (h : readInteger? s.toList = some i) :
    Scalar.ofText s = .integer i := by
  simp only [Scalar.ofText, readBoolean?_of_readInteger? h, h]

theorem ofText_of_readDecimal? {s : String} {d : Binary64} (hi : readInteger? s.toList = none)
    (h : readDecimal? s.toList = some d) : Scalar.ofText s = .decimal d := by
  simp only [Scalar.ofText, readBoolean?_of_readDecimal? h, hi, h]

/-- The texts that come back unchanged are known exactly. -/
theorem asText_ofText_iff (s : String) : (Scalar.ofText s).asText = s ↔ Verbatim s := by
  constructor
  · intro h
    unfold Scalar.ofText at h
    cases hb : readBoolean? s with
    | some b =>
      rw [hb] at h
      exact .boolean b h.symm
    | none =>
      cases hi : readInteger? s.toList with
      | some i =>
        simp only [hb, hi] at h
        have hwritten : s.toList = writeInteger i := by
          rw [← h, Scalar.asText, String.toList_ofList]
        exact .integer i (inRange_of_readInteger? hi) hwritten
      | none =>
        cases hd : readDecimal? s.toList with
        | some d =>
          simp only [hb, hi, hd] at h
          refine .decimal d hd hi ?_
          conv => rhs; rw [← h, Scalar.asText, String.toList_ofList]
        | none => exact .text hb hi hd
  · intro h
    cases h with
    | boolean b h =>
      subst h
      cases b with
      | true => rfl
      | false => rfl
    | integer i range h =>
      have hi : readInteger? s.toList = some i := by rw [h, readInteger?_writeInteger range]
      rw [ofText_of_readInteger? hi, Scalar.asText, ← h, String.ofList_toList]
    | decimal d read notInteger written =>
      rw [ofText_of_readDecimal? notInteger read, Scalar.asText, written, String.ofList_toList]
    | text notBoolean notInteger notDecimal =>
      simp only [Scalar.ofText, notBoolean, notInteger, notDecimal, Scalar.asText]

/-- A text with a character of ASCII that is in no number comes back unchanged. -/
theorem verbatim_of_mem {s : String} (hc : c ∈ s.toList) (hascii : c.toNat < 0x80)
    (h : isScalarChar c = false) : Verbatim s := by
  refine .text ?_ ?_ ?_
  · refine readBoolean?_eq_none hascii hc fun hmem => ?_
    have hletters : "truefalse".toList.all Char.isAlpha = true := rfl
    have halpha : c.isAlpha = true :=
      LowerCase.isAlpha_of_toLower (List.all_eq_true.mp hletters _ hmem)
    simp [isScalarChar, Char.isAlphanum, halpha] at h
  · cases hi : readInteger? s.toList with
    | none => rfl
    | some i =>
      rw [isScalarChar_of_readInteger? hi hc] at h
      contradiction
  · cases hd : readDecimal? s.toList with
    | none => rfl
    | some d =>
      rw [isScalarChar_of_readDecimal? hd hc] at h
      contradiction

end RollCall.Settings
