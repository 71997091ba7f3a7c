import RollCall.Text

/-! The lower-case form of characters of ASCII does not depend on what stands around them. -/
namespace RollCall.LowerCase

variable {c : Char} {cs before : List Char}

theorem lowerChar_of_ascii (h : c.toNat < 0x80) : Unicode.lowerChar c = [c.toLower] := if_pos h

theorem lt_of_toLower_lt (h : c.toLower.toNat < 0x80) : c.toNat < 0x80 := by
  unfold Char.toLower at h
  split at h
  next hupper =>
    have hle : c.toNat ≤ 'Z'.toNat := UInt32.le_iff_toNat_le.mp hupper.2
    exact Nat.lt_of_le_of_lt hle (by decide)
  next => exact h

theorem isAlpha_of_toLower (h : c.toLower.isAlpha = true) : c.isAlpha = true := by
  unfold Char.toLower at h
  split at h
  next hupper =>
    have hisUpper : c.isUpper = true := decide_eq_true hupper
    exact Bool.or_eq_true_iff.mpr (Or.inl hisUpper)
  next => exact h

/-- A character of ASCII is found in the lower-case form of a text that holds it. -/
theorem toLower_mem_lowerFrom (h : c.toNat < 0x80) (hc : c ∈ cs) :
    c.toLower ∈ lowerFrom before cs := by
  induction cs generalizing before with
  | nil => contradiction
  | cons x cs ih =>
    unfold lowerFrom
    dsimp only
    rcases List.mem_cons.mp hc with rfl | hc
    · have hsigma : c ≠ '\u03a3' := by
        rintro rfl
        contradiction
      rw [if_neg hsigma, lowerChar_of_ascii h]
      exact List.mem_append_left _ (List.mem_singleton_self _)
    · exact List.mem_append_right _ (ih hc)

theorem toLower_mem_ofText {s : String} (h : c.toNat < 0x80) (hc : c ∈ s.toList) :
    c.toLower ∈ (ofText s).toList := by
  rw [ofText, String.toList_ofList]
  exact toLower_mem_lowerFrom h hc

theorem toLower_of_not_ascii (h : ¬ c.toNat < 0x80) : c.toLower = c := by
  unfold Char.toLower
  rw [dif_neg]
  rintro ⟨-, hupper⟩
  have hle : c.toNat ≤ 'Z'.toNat := UInt32.le_iff_toNat_le.mp hupper
  exact h (Nat.lt_of_le_of_lt hle (by decide))

/-- All that counts of a character, for itself and for its neighbours, is the same in both cases. -/
structure Alike (c d : Char) : Prop where
  cased : Unicode.isCased c = Unicode.isCased d
  ignorable : Unicode.isCaseIgnorable c = Unicode.isCaseIgnorable d
  sigma : c = '\u03a3' ↔ d = '\u03a3'
  lower : Unicode.lowerChar c = Unicode.lowerChar d

theorem alike_toLower (c : Char) : Alike c.toLower c := by
  by_cases h : c.toNat < 0x80
  · have hascii : ∀ n < 0x80,
        Unicode.isCased (Char.ofNat n).toLower = Unicode.isCased (Char.ofNat n) ∧
        Unicode.isCaseIgnorable (Char.ofNat n).toLower = Unicode.isCaseIgnorable (Char.ofNat n) ∧
        ((Char.ofNat n).toLower = '\u03a3' ↔ Char.ofNat n = '\u03a3') ∧
        Unicode.lowerChar (Char.ofNat n).toLower = Unicode.lowerChar (Char.ofNat n) := by
      decide +kernel
    have hc := hascii c.toNat h
    rw [Char.ofNat_toNat] at hc
    obtain ⟨hcased, hignorable, hsigma, hlower⟩ := hc
    exact ⟨hcased, hignorable, hsigma, hlower⟩
  · rw [toLower_of_not_ascii h]
    exact ⟨rfl, rfl, Iff.rfl, rfl⟩

theorem casedAhead_map_toLower (cs : List Char) :
    casedAhead (cs.map Char.toLower) = casedAhead cs := by
  unfold casedAhead
  induction cs with
  | nil => rfl
  | cons c cs ih =>
    rw [List.map_cons, List.dropWhile_cons, List.dropWhile_cons, (alike_toLower c).ignorable]
    cases Unicode.isCaseIgnorable c with
    | true => exact ih
    | false => exact (alike_toLower c).cased

theorem lowerFrom_map_toLower (before cs : List Char) :
    lowerFrom (before.map Char.toLower) (cs.map Char.toLower) = lowerFrom before cs := by
  induction cs generalizing before with
  | nil => rfl
  | cons c cs ih =>
    have htail := ih (c :: before)
    rw [List.map_cons] at htail
    rw [List.map_cons, lowerFrom, lowerFrom, htail, casedAhead_map_toLower, casedAhead_map_toLower]
    simp only [(alike_toLower c).sigma, (alike_toLower c).lower]

/-- Texts that differ only in the case of letters of ASCII have one lower-case form. -/
theorem ofText_eq_of_map_toLower {s t : String}
    (h : s.toList.map Char.toLower = t.toList.map Char.toLower) : ofText s = ofText t := by
  have hlower (text : String) : lowerFrom [] (text.toList.map Char.toLower) =
      lowerFrom [] text.toList := lowerFrom_map_toLower [] text.toList
  rw [ofText, ofText, ← hlower s, ← hlower t, h]

end RollCall.LowerCase
