import Mathlib.Data.List.TakeWhile
import RollCall.Proofs.Except
import RollCall.Regex.Parser

/-! Reading a pattern with a closing parenthesis behind it. Every reader that succeeds on a text does
so in the same way with the parenthesis behind, and leaves it standing behind what it left before. The
one way to lose the parenthesis is a comment at the end of the pattern, which runs over it. -/
namespace RollCall.Regex

/-- The second text is the first one with a closing parenthesis behind it; of a text that ended with a
comment, nothing may be left either way. -/
inductive WithParen : List Char → List Char → Prop
  | stands (cs : List Char) : WithParen cs (cs ++ [')'])
  | commented : WithParen [] []

namespace WithParen

variable {cs cs' : List Char} {c : Char}

theorem of_cons (h : WithParen (c :: cs) cs') : ∃ ds, cs' = c :: ds ∧ WithParen cs ds := by
  cases h with
  | stands => exact ⟨cs ++ [')'], rfl, .stands cs⟩

theorem of_nil (h : WithParen [] cs') : cs' = [')'] ∨ cs' = [] := by
  cases h with
  | stands => exact Or.inl rfl
  | commented => exact Or.inr rfl

/-- Any other character begins the text with the parenthesis iff it begins the text. -/
theorem head?_iff (h : WithParen cs cs') (hc : c ≠ ')') :
    cs'.head? = some c ↔ cs.head? = some c := by
  cases cs with
  | nil =>
    rcases h.of_nil with rfl | rfl
    · exact iff_of_false (fun h => hc (Option.some.inj h).symm) nofun
    · exact Iff.rfl
  | cons x cs =>
    obtain ⟨xs, rfl, -⟩ := h.of_cons
    exact Iff.rfl

theorem not_cons (h : WithParen cs cs') (hc : c ≠ ')') (hne : ∀ ds, cs = c :: ds → False) :
    ∀ ds, cs' = c :: ds → False := by
  rintro ds rfl
  obtain ⟨xs, hxs⟩ := List.head?_eq_some_iff.mp ((h.head?_iff hc).mp rfl)
  exact hne xs hxs

theorem not_pair {d : Char} (h : WithParen cs cs') (hc : c ≠ ')') (hd : d ≠ ')')
    (hne : ∀ ds, cs = c :: d :: ds → False) : ∀ ds, cs' = c :: d :: ds → False := by
  rintro ds rfl
  obtain ⟨rest, rfl⟩ := List.head?_eq_some_iff.mp ((h.head?_iff hc).mp rfl)
  obtain ⟨_, hds, hrest⟩ := h.of_cons
  obtain rfl := (List.cons.inj hds).2
  exact hrest.not_cons hd (fun ds hds => hne ds (congrArg (c :: ·) hds)) ds rfl

/-- Leaving out characters of a kind goes as before if the parenthesis is not one of them. -/
theorem dropWhile {p : Char → Bool} (hp : p ')' = false) (h : WithParen cs cs') :
    WithParen (cs.dropWhile p) (cs'.dropWhile p) := by
  cases h with
  | commented => exact .commented
  | stands =>
    induction cs with
    | nil =>
      rw [List.nil_append, List.dropWhile_cons_of_neg (by simp [hp])]
      exact .stands []
    | cons c cs ih =>
      rw [List.cons_append, List.dropWhile_cons, List.dropWhile_cons]
      split
      · exact ih
      · exact .stands (c :: cs)

/-- A run that ends before a character ends there with the parenthesis behind as well. -/
theorem dropWhile_cons {p : Char → Bool} {rest : List Char} (h : WithParen cs cs')
    (hdrop : cs.dropWhile p = c :: rest) :
    ∃ rest', cs'.dropWhile p = c :: rest' ∧ cs'.takeWhile p = cs.takeWhile p ∧
      WithParen rest rest' := by
  cases h with
  | commented => contradiction
  | stands =>
    induction cs with
    | nil => contradiction
    | cons d cs ih =>
      rw [List.dropWhile_cons] at hdrop
      rw [List.cons_append, List.dropWhile_cons, List.takeWhile_cons, List.takeWhile_cons]
      split at hdrop
      · next hd =>
        rw [if_pos hd, if_pos hd, if_pos hd]
        obtain ⟨rest', hdrop', htake, hrest⟩ := ih hdrop
        exact ⟨rest', hdrop', congrArg (d :: ·) htake, hrest⟩
      · next hd =>
        obtain ⟨rfl, rfl⟩ := List.cons.inj hdrop
        rw [if_neg hd, if_neg hd, if_neg hd]
        exact ⟨_, rfl, rfl, .stands cs⟩

theorem dropWhile_nil {p : Char → Bool} (h : WithParen cs cs') (hp : p ')' = true)
    (hdrop : cs.dropWhile p = []) : cs'.dropWhile p = [] := by
  rw [List.dropWhile_eq_nil_iff] at hdrop ⊢
  cases h with
  | commented => exact hdrop
  | stands => exact List.forall_mem_append.mpr ⟨hdrop, List.forall_mem_singleton.mpr hp⟩

theorem skipBlanks (inComment : Bool) (h : WithParen cs cs') :
    WithParen (Regex.skipBlanks inComment cs) (Regex.skipBlanks inComment cs') := by
  cases h with
  | commented => exact .commented
  | stands =>
    induction cs generalizing inComment with
    | nil =>
      cases inComment with
      | true => exact .commented
      | false => exact .stands []
    | cons c cs ih =>
      cases inComment with
      | true => exact ih _
      | false =>
        rw [List.cons_append, Regex.skipBlanks, Regex.skipBlanks]
        split_ifs
        · exact ih false
        · exact ih true
        · exact .stands (c :: cs)

theorem skip (f : Flags) (h : WithParen cs cs') : WithParen (f.skip cs) (f.skip cs') := by
  unfold Flags.skip
  split
  · exact h.skipBlanks false
  · exact h

end WithParen

/-- The same value, and the parenthesis behind the same rest. -/
structure SameValue {σ : Type} (x y : σ × List Char) : Prop where
  value : y.1 = x.1
  rest : WithParen x.2 y.2

/-- The same two values, and the parenthesis behind the same rest. -/
structure SameValues {σ τ : Type} (x y : σ × τ × List Char) : Prop where
  value : y.1 = x.1
  others : SameValue x.2 y.2

/-- Where both readings succeed, their results are related. -/
def Consistent {α β : Type} (R : α → β → Prop) (x : Except PatternError α)
    (y : Except PatternError β) : Prop :=
  ∀ ⦃a b⦄, x = .ok a → y = .ok b → R a b

namespace Consistent

variable {α β γ δ : Type} {R : α → β → Prop} {S : γ → δ → Prop} {x : Except PatternError α}
  {y : Except PatternError β}

theorem error {e : PatternError} : Consistent R (.error e) y := fun _ _ h => nomatch h

theorem error_right {e : PatternError} : Consistent R x (.error e) := fun _ _ _ h => nomatch h

theorem ok {a : α} {b : β} (h : R a b) : Consistent R (.ok a) (.ok b) := by
  intro _ _ ha hb
  obtain rfl := Except.ok.inj ha
  obtain rfl := Except.ok.inj hb
  exact h

theorem bind {k : α → Except PatternError γ} {k' : β → Except PatternError δ}
    (h : Consistent R x y) (hk : ∀ a b, R a b → Consistent S (k a) (k' b)) :
    Consistent S (x.bind k) (y.bind k') := by
  intro c d hc hd
  obtain ⟨a, hx, ha⟩ := bind_ok.mp hc
  obtain ⟨b, hy, hb⟩ := bind_ok.mp hd
  exact hk a b (h hx hy) ha hb

/-- A value that does not depend on the text is the same either way. -/
theorem bind_same {k : α → Except PatternError γ} {k' : α → Except PatternError δ}
    (hk : ∀ a, Consistent S (k a) (k' a)) : Consistent S (x.bind k) (x.bind k') := by
  refine bind (R := Eq) (fun a b ha hb => Except.ok.inj (ha.symm.trans hb)) ?_
  rintro a _ rfl
  exact hk a

/-- Past a check that either reading may fail on its own. -/
theorem check {c c' : Prop} [Decidable c] [Decidable c'] {err err' : PatternError}
    {k : γ → Except PatternError α} {k' : δ → Except PatternError β} (h : Consistent R x y) :
    Consistent R (if c then (Except.error err).bind k else x)
      (if c' then (Except.error err').bind k' else y) :=
  fun _ _ ha hb => h (ok_of_check ha).2 (ok_of_check hb).2

theorem bind_value {σ : Type} {x y : Except PatternError (σ × List Char)}
    {k : σ × List Char → Except PatternError γ} {k' : σ × List Char → Except PatternError δ}
    (h : Consistent SameValue x y)
    (hk : ∀ a rest rest', WithParen rest rest' → Consistent S (k (a, rest)) (k' (a, rest'))) :
    Consistent S (x.bind k) (y.bind k') := by
  refine h.bind ?_
  rintro ⟨a, rest⟩ ⟨_, rest'⟩ ⟨rfl, hrest⟩
  exact hk _ rest rest' hrest

theorem bind_values {σ τ : Type} {x y : Except PatternError (σ × τ × List Char)}
    {k : σ × τ × List Char → Except PatternError γ}
    {k' : σ × τ × List Char → Except PatternError δ} (h : Consistent SameValues x y)
    (hk : ∀ a b rest rest', WithParen rest rest' →
      Consistent S (k (a, b, rest)) (k' (a, b, rest'))) :
    Consistent S (x.bind k) (y.bind k') := by
  refine h.bind ?_
  rintro ⟨a, b, rest⟩ ⟨_, _, rest'⟩ ⟨rfl, rfl, hrest⟩
  exact hk _ _ rest rest' hrest

end Consistent

section Runs

variable {σ : Type} {f : Flags} {step : σ → Char → Option σ} {s : σ} {cs cs' : List Char}

theorem length_skipBlanks_le (inComment : Bool) (cs : List Char) :
    (skipBlanks inComment cs).length ≤ cs.length := by
  induction cs generalizing inComment with
  | nil => cases inComment <;> exact Nat.le_refl 0
  | cons c cs ih =>
    cases inComment with
    | true => exact Nat.le_succ_of_le (ih _)
    | false =>
      rw [skipBlanks]
      split_ifs
      · exact Nat.le_succ_of_le (ih false)
      · exact Nat.le_succ_of_le (ih true)
      · exact Nat.le_refl _

theorem Flags.length_skip_le (f : Flags) (cs : List Char) : (f.skip cs).length ≤ cs.length := by
  unfold Flags.skip
  split
  · exact length_skipBlanks_le false cs
  · exact Nat.le_refl _

/-- Characters are taken as long as the step goes on, with what may be skipped behind each. -/
def takeRun (f : Flags) (step : σ → Char → Option σ) : Nat → σ → List Char → σ × List Char
  | 0, s, cs => (s, cs)
  | _ + 1, s, [] => (s, [])
  | fuel + 1, s, c :: cs =>
    match step s c with
    | some s => takeRun f step fuel s (f.skip cs)
    | none => (s, c :: cs)

theorem takeRun_of_nil (hparen : ∀ s, step s ')' = none) {fuel fuel' : Nat}
    (hfuel' : cs'.length ≤ fuel') (h : WithParen [] cs') :
    SameValue (takeRun f step fuel s []) (takeRun f step fuel' s cs') := by
  have hnil (fuel : Nat) : takeRun f step fuel s [] = (s, []) := by cases fuel <;> rfl
  rcases h.of_nil with rfl | rfl
  · obtain ⟨fuel', rfl⟩ := Nat.exists_eq_add_of_lt hfuel'
    rw [hnil, takeRun, hparen]
    exact ⟨rfl, h⟩
  · rw [hnil, hnil]
    exact ⟨rfl, h⟩

/-- A run that the parenthesis ends takes the same characters with the parenthesis behind. -/
theorem takeRun_withParen (hparen : ∀ s, step s ')' = none) {fuel fuel' : Nat}
    (hfuel : cs.length ≤ fuel) (hfuel' : cs'.length ≤ fuel') (h : WithParen cs cs') :
    SameValue (takeRun f step fuel s cs) (takeRun f step fuel' s cs') := by
  induction fuel generalizing fuel' s cs cs' with
  | zero =>
    obtain rfl := List.length_eq_zero_iff.mp (Nat.le_zero.mp hfuel)
    exact takeRun_of_nil hparen hfuel' h
  | succ fuel ih =>
    cases cs with
    | nil => exact takeRun_of_nil hparen hfuel' h
    | cons c cs =>
      obtain ⟨ds, rfl, hds⟩ := h.of_cons
      obtain ⟨fuel', rfl⟩ := Nat.exists_eq_add_of_lt hfuel'
      rw [List.length_cons] at hfuel hfuel'
      rw [takeRun, takeRun]
      cases step s c with
      | none => exact ⟨rfl, h⟩
      | some s =>
        have hle := f.length_skip_le cs
        have hle' := f.length_skip_le ds
        exact ih (by omega) (by omega) (hds.skip f)

end Runs

end RollCall.Regex
