import RollCall.Proofs.Regex.Parentheses.Escapes

/-! Operators and the openings of groups with a closing parenthesis behind the pattern. -/
namespace RollCall.Regex

section Operators

variable {f : Flags} {cs cs' : List Char}

theorem sameValue_greedyMark (h : WithParen cs cs') :
    SameValue (greedyMark cs) (greedyMark cs') := by
  unfold greedyMark
  split
  · next rest =>
    obtain ⟨rest', rfl, hrest⟩ := h.of_cons
    exact ⟨rfl, hrest⟩
  · next hne =>
    have hne' := h.not_cons (by decide) hne
    simp only
    exact ⟨rfl, h⟩

theorem digitRun_eq_takeRun (fuel : Nat) (found cs : List Char) :
    digitRun f fuel found cs =
      (takeRun f (takeChar Char.isDigit) fuel found cs).map List.reverse id := by
  induction fuel generalizing found cs with
  | zero => rfl
  | succ fuel ih =>
    cases cs with
    | nil => rfl
    | cons c cs =>
      rw [digitRun, takeRun, takeChar]
      split
      · exact ih (c :: found) (f.skip cs)
      · rfl

theorem sameValue_digitRun (h : WithParen cs cs') :
    SameValue (digitRun f (cs.length + 1) [] cs) (digitRun f (cs'.length + 1) [] cs') := by
  have hparen (found : List Char) : takeChar Char.isDigit found ')' = none := rfl
  have hrun := takeRun_withParen (f := f) (s := []) hparen (Nat.le_succ _) (Nat.le_succ _) h
  rw [digitRun_eq_takeRun, digitRun_eq_takeRun]
  exact ⟨congrArg List.reverse hrun.value, hrun.rest⟩

theorem blankRun_eq_takeRun (fuel : Nat) (cs : List Char) :
    blankRun f fuel cs =
      (takeRun f (fun _ c => if Unicode.isBlank c then some () else none) fuel () cs).2 := by
  induction fuel generalizing cs with
  | zero => rfl
  | succ fuel ih =>
    cases cs with
    | nil => rfl
    | cons c cs =>
      rw [blankRun, takeRun]
      split
      · exact ih (f.skip cs)
      · rfl

theorem withParen_blankRun (h : WithParen cs cs') :
    WithParen (blankRun f (cs.length + 1) cs) (blankRun f (cs'.length + 1) cs') := by
  rw [blankRun_eq_takeRun, blankRun_eq_takeRun]
  exact (takeRun_withParen (fun _ => rfl) (Nat.le_succ _) (Nat.le_succ _) h).rest

theorem consistent_count (h : WithParen cs cs') :
    Consistent SameValue (count f cs) (count f cs') := by
  have hblank : WithParen (cs.dropWhile Unicode.isBlank) (cs'.dropWhile Unicode.isBlank) :=
    h.dropWhile rfl
  unfold count
  generalize cs.dropWhile Unicode.isBlank = ds at hblank ⊢
  generalize cs'.dropWhile Unicode.isBlank = ds' at hblank ⊢
  have hrun := sameValue_digitRun (f := f) hblank
  dsimp only
  generalize digitRun f (ds.length + 1) [] ds = x at hrun ⊢
  generalize digitRun f (ds'.length + 1) [] ds' = y at hrun ⊢
  obtain ⟨_, rest⟩ := x
  obtain ⟨digits, rest'⟩ := y
  obtain ⟨rfl, hrest⟩ := hrun
  have hrest' := withParen_blankRun (f := f) hrest
  dsimp only
  split
  · exact .ok ⟨rfl, hrest'⟩
  · split
    · exact .ok ⟨rfl, hrest'⟩
    · exact .error

theorem consistent_bounds (h : WithParen cs cs') :
    Consistent SameValues (bounds f cs) (bounds f cs') := by
  refine .bind_value (consistent_count (h.skip f)) fun min rest rest' hrest => ?_
  dsimp only
  split
  · obtain ⟨tail', rfl, htail⟩ := hrest.of_cons
    exact .ok ⟨rfl, rfl, htail⟩
  · next n rest =>
    obtain ⟨tail', rfl, htail⟩ := hrest.of_cons
    have hskip := htail.skip f
    simp only
    generalize f.skip rest = ds at hskip ⊢
    generalize f.skip tail' = ds' at hskip ⊢
    split
    · obtain ⟨es', rfl, hes⟩ := hskip.of_cons
      exact .ok ⟨rfl, rfl, hes⟩
    · next hne =>
      have hne' := hskip.not_cons (by decide) hne
      simp only
      refine .bind_value (consistent_count hskip) fun max rest rest' hrest => ?_
      split
      · next heq =>
        obtain ⟨rfl, rfl⟩ := Prod.mk.inj heq
        obtain ⟨es', rfl, hes⟩ := hrest.of_cons
        simp only
        split
        · exact .ok ⟨rfl, rfl, hes⟩
        · exact .error
      · exact .error
  · exact .error

end Operators

section Groups

variable {f : Flags} {cs cs' : List Char}

theorem consistent_groupName (h : WithParen cs cs') :
    Consistent SameValue (groupName cs) (groupName cs') := by
  unfold groupName
  cases hdrop : cs.dropWhile (· ≠ '>') with
  | nil => cases cs.takeWhile (· ≠ '>') <;> exact .error
  | cons d rest =>
    obtain ⟨rest', hdrop', htake, hrest⟩ := h.dropWhile_cons hdrop
    rw [hdrop', htake]
    cases cs.takeWhile (· ≠ '>') with
    | nil => exact .error
    | cons first others =>
      dsimp only
      split
      · exact .ok ⟨rfl, hrest⟩
      · exact .error

theorem consistent_flagList (seen : List Char) (h : WithParen cs cs') :
    Consistent SameValue (flagList f seen cs) (flagList f seen cs') := by
  induction cs generalizing f seen cs' with
  | nil => exact .error
  | cons c cs ih =>
    obtain ⟨ds, rfl, hds⟩ := h.of_cons
    by_cases hcolon : c = ':'
    · subst hcolon
      rw [flagList, flagList]
      split
      · exact .error
      · exact .ok ⟨rfl, hds⟩
    by_cases hclose : c = ')'
    · subst hclose
      rw [flagList, flagList]
      split
      · exact .error
      · exact .ok ⟨rfl, hds⟩
    · rw [flagList.eq_4 _ _ _ _ hcolon hclose, flagList.eq_4 _ _ _ _ hcolon hclose]
      split
      · exact .error
      split
      · exact ih _ hds
      split
      · exact ih _ hds
      · exact .error

/-- A group with a name, read from where the name begins. -/
theorem consistent_named (h : WithParen cs cs') :
    Consistent SameValue ((groupName cs).map fun (name, rest) => (Opening.capture (some name), rest))
      ((groupName cs').map fun (name, rest) => (Opening.capture (some name), rest)) := by
  intro a b ha hb
  obtain ⟨⟨name, rest⟩, hx, rfl⟩ := map_ok.mp ha
  obtain ⟨⟨name', rest'⟩, hy, rfl⟩ := map_ok.mp hb
  obtain ⟨rfl, hrest⟩ := consistent_groupName h hx hy
  exact ⟨rfl, hrest⟩

theorem consistent_opening (h : WithParen cs cs') :
    Consistent SameValue (opening f cs) (opening f cs') := by
  have hskip := h.skip f
  unfold opening
  generalize f.skip cs = ds at hskip ⊢
  generalize f.skip cs' = ds' at hskip ⊢
  split
  · exact .error
  · exact .error
  · exact .error
  · exact .error
  · next rest =>
    obtain ⟨_, rfl, hmark⟩ := hskip.of_cons
    obtain ⟨_, rfl, hletter⟩ := hmark.of_cons
    obtain ⟨rest', rfl, hrest⟩ := hletter.of_cons
    exact consistent_named hrest
  · next rest hequals hbang =>
    obtain ⟨_, rfl, hmark⟩ := hskip.of_cons
    obtain ⟨rest', rfl, hrest⟩ := hmark.of_cons
    have hequals' := hrest.not_cons (by decide) hequals
    have hbang' := hrest.not_cons (by decide) hbang
    simp only
    exact consistent_named hrest
  · next rest hequals hbang _ _ hletter hname =>
    obtain ⟨rest', rfl, hrest⟩ := hskip.of_cons
    have hequals' := hrest.not_cons (by decide) hequals
    have hbang' := hrest.not_cons (by decide) hbang
    have hletter' := hrest.not_pair (by decide) (by decide) hletter
    have hname' := hrest.not_cons (by decide) hname
    have hbehind' : ∀ tail, rest' = '<' :: '=' :: tail → False := fun tail => hname' _
    have hnotBehind' : ∀ tail, rest' = '<' :: '!' :: tail → False := fun tail => hname' _
    simp only
    exact consistent_flagList [] hrest
  · next hmark =>
    have hmark' := hskip.not_cons (by decide) hmark
    split
    case h_8 => exact .ok ⟨rfl, hskip⟩
    all_goals exact (hmark' _ rfl).elim

theorem consistent_primitivePart (h : WithParen cs cs') :
    Consistent SameValue (primitivePart f cs) (primitivePart f cs') := by
  unfold primitivePart
  extract_lets finish
  have hfinish {x y : Except PatternError (Primitive × List Char)}
      (hxy : Consistent SameValue x y) : Consistent SameValue (x.bind finish) (y.bind finish) := by
    refine hxy.bind_value fun p rest rest' hrest => ?_
    cases p with
    | literal c isByte =>
      dsimp only [finish]
      split
      · exact .error
      · exact .ok ⟨rfl, hrest⟩
    | dot => exact .bind_same fun e => .ok ⟨rfl, hrest⟩
    | _ => exact .ok ⟨rfl, hrest⟩
  cases cs with
  | nil => exact .error
  | cons c cs =>
    obtain ⟨ds, rfl, hds⟩ := h.of_cons
    by_cases hslash : c = '\\'
    · subst hslash
      exact hfinish (consistent_escape hds)
    by_cases hdot : c = '.'
    · subst hdot
      exact hfinish (.ok ⟨rfl, hds⟩)
    by_cases hcaret : c = '^'
    · subst hcaret
      exact hfinish (.ok ⟨rfl, hds⟩)
    by_cases hdollar : c = '$'
    · subst hdollar
      exact hfinish (.ok ⟨rfl, hds⟩)
    · simp only
      exact hfinish (.ok ⟨rfl, hds⟩)

end Groups

end RollCall.Regex
