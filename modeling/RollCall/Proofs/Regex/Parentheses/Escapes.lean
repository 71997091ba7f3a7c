import RollCall.Proofs.Regex.Parentheses

/-! Escapes with a closing parenthesis behind the pattern: numbers in hexadecimal, properties, and the
edges of words. -/
namespace RollCall.Regex

variable {f : Flags} {cs cs' : List Char}

theorem consistent_hexDigits (n value : Nat) (h : WithParen cs cs') :
    Consistent SameValue (hexDigits f n value cs) (hexDigits f n value cs') := by
  induction n generalizing value cs cs' with
  | zero => exact .ok ⟨rfl, h⟩
  | succ n ih =>
    cases cs with
    | nil => exact .error
    | cons c cs =>
      obtain ⟨ds, rfl, hds⟩ := h.of_cons
      rw [hexDigits, hexDigits]
      cases hexDigit? c with
      | none => exact .error
      | some d => exact ih _ (hds.skip f)

theorem consistent_upToBrace (fuel fuel' : Nat) (found : List Char) (h : WithParen cs cs') :
    Consistent SameValue (upToBrace f fuel found cs) (upToBrace f fuel' found cs') := by
  induction fuel generalizing fuel' found cs cs' with
  | zero => exact .error
  | succ fuel ih =>
    cases fuel' with
    | zero => exact .error_right
    | succ fuel' =>
      have hskip := h.skip f
      rw [upToBrace, upToBrace]
      generalize f.skip cs = ds at hskip ⊢
      cases ds with
      | nil => exact .error
      | cons c ds =>
        obtain ⟨ds', hds', hds⟩ := hskip.of_cons
        rw [hds']
        by_cases hc : c = '\x7d'
        · subst hc
          exact .ok ⟨rfl, hds⟩
        · simp only
          exact ih fuel' _ hds

theorem consistent_hexEscape (letter : Char) (h : WithParen cs cs') :
    Consistent SameValue (hexEscape f letter cs) (hexEscape f letter cs') := by
  have hskip := h.skip f
  unfold hexEscape
  generalize f.skip cs = ds at hskip ⊢
  generalize f.skip cs' = ds' at hskip ⊢
  split
  · next ds =>
    obtain ⟨ds', rfl, hds⟩ := hskip.of_cons
    refine .bind_value (consistent_upToBrace _ _ [] hds) fun digits rest rest' hrest => ?_
    dsimp only
    split
    · exact .error
    · split
      · exact .error
      · split
        · exact .ok ⟨rfl, hrest.skip f⟩
        · exact .error
  · next hne =>
    have hne' := hskip.not_cons (by decide) hne
    simp only
    refine .bind_value (consistent_hexDigits _ 0 hskip) fun value rest rest' hrest => ?_
    dsimp only
    split
    · exact .ok ⟨rfl, hrest⟩
    · exact .error

theorem consistent_propertyEscape (negated : Bool) (h : WithParen cs cs') :
    Consistent SameValue (propertyEscape f negated cs) (propertyEscape f negated cs') := by
  have hskip := h.skip f
  unfold propertyEscape
  generalize f.skip cs = ds at hskip ⊢
  generalize f.skip cs' = ds' at hskip ⊢
  extract_lets finish
  have hfinish {x y : Except PatternError (List Char × List Char)} (hxy : Consistent SameValue x y) :
      Consistent SameValue (x.bind finish) (y.bind finish) := by
    refine hxy.bind_value fun name rest rest' hrest => ?_
    dsimp only [finish]
    split
    · exact .error
    · split
      · exact .bind_same fun s => .ok ⟨rfl, hrest⟩
      · exact .error
  cases ds with
  | nil => exact .error
  | cons c ds =>
    obtain ⟨ds', rfl, hds⟩ := hskip.of_cons
    by_cases hbrace : c = '\x7b'
    · subst hbrace
      exact hfinish (consistent_upToBrace _ _ [] hds)
    by_cases hslash : c = '\\'
    · subst hslash
      exact .error
    · simp only
      exact hfinish (.ok ⟨rfl, hds.skip f⟩)

def takeChar (p : Char → Bool) (found : List Char) (c : Char) : Option (List Char) :=
  if p c then some (c :: found) else none

theorem edgeName_eq_takeRun (fuel : Nat) (found cs : List Char) :
    edgeName f fuel found cs =
      (takeRun f (takeChar fun c => c.isAlpha || c = '-') fuel found cs).map List.reverse id := by
  induction fuel generalizing found cs with
  | zero => rfl
  | succ fuel ih =>
    cases cs with
    | nil => rfl
    | cons c cs =>
      rw [edgeName, takeRun, takeChar]
      split
      · exact ih (c :: found) (f.skip cs)
      · rfl

theorem sameValue_edgeName {fuel fuel' : Nat} (hfuel : cs.length ≤ fuel)
    (hfuel' : cs'.length ≤ fuel') (found : List Char) (h : WithParen cs cs') :
    SameValue (edgeName f fuel found cs) (edgeName f fuel' found cs') := by
  have hparen (found : List Char) :
      takeChar (fun c => c.isAlpha || c = '-') found ')' = none := rfl
  have hrun := takeRun_withParen (f := f) (s := found) hparen hfuel hfuel' h
  rw [edgeName_eq_takeRun, edgeName_eq_takeRun]
  exact ⟨congrArg List.reverse hrun.value, hrun.rest⟩

theorem consistent_wordEscape (h : WithParen cs cs') :
    Consistent SameValue (wordEscape f cs) (wordEscape f cs') := by
  by_cases hbrace : ∃ inner, cs = '\x7b' :: inner
  · obtain ⟨inner, rfl⟩ := hbrace
    obtain ⟨inner', rfl, hinner⟩ := h.of_cons
    have hskip := hinner.skip f
    rw [wordEscape, wordEscape]
    generalize f.skip inner = ds at hskip ⊢
    generalize f.skip inner' = ds' at hskip ⊢
    cases ds with
    | nil => exact .error
    | cons c ds =>
      obtain ⟨ds', rfl, hds⟩ := hskip.of_cons
      dsimp only
      split
      · have hname := sameValue_edgeName (f := f) (Nat.le_refl _) (Nat.le_refl _) [] hskip
        rw [List.length_cons, List.length_cons] at hname
        generalize edgeName f (ds.length + 1) [] (c :: ds) = x at hname ⊢
        generalize edgeName f (ds'.length + 1) [] (c :: ds') = y at hname ⊢
        obtain ⟨name, rest⟩ := x
        obtain ⟨name', rest'⟩ := y
        obtain ⟨rfl, hrest⟩ := hname
        split
        · next heq =>
          obtain ⟨rfl, rfl⟩ := Prod.mk.inj heq
          obtain ⟨tail, rfl, htail⟩ := hrest.of_cons
          simp only
          split
          · exact .ok ⟨rfl, htail⟩
          · exact .ok ⟨rfl, htail⟩
          · exact .ok ⟨rfl, htail⟩
          · exact .ok ⟨rfl, htail⟩
          · exact .error
        · exact .error
      · exact .ok ⟨rfl, h⟩
  · have hne : ∀ inner, cs = '\x7b' :: inner → False := fun inner hcs => hbrace ⟨inner, hcs⟩
    have hne' := h.not_cons (by decide) hne
    unfold wordEscape
    simp only
    exact .ok ⟨rfl, h⟩

theorem consistent_escape (h : WithParen cs cs') : Consistent SameValue (escape f cs) (escape f cs') := by
  cases cs with
  | nil => exact .error
  | cons c cs =>
    obtain ⟨ds, rfl, hds⟩ := h.of_cons
    unfold escape
    dsimp only
    split
    case h_1 | h_2 | h_3 => exact consistent_hexEscape _ hds
    case h_4 | h_5 => exact consistent_propertyEscape _ hds
    case h_9 | h_10 | h_11 => exact .bind_same fun s => .ok ⟨rfl, hds⟩
    case h_20 => exact consistent_wordEscape hds
    case h_24 =>
      split
      · exact .ok ⟨rfl, hds⟩
      · exact .error
    all_goals exact .ok ⟨rfl, hds⟩

end RollCall.Regex
