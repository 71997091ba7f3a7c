import RollCall.Proofs.Regex.Soundness

/-! The code of an expression leads a way wherever the expression matches. So the program of an
expression accepts something exactly where a match begins. -/
namespace RollCall.Regex.Expr

variable {prog : Program} {hay : Array Char} {v : Thread} {n base next : Nat} {e : Expr}
  {place start stop : Nat} {rounds : List Span}

/-- Wherever the code of the expression stands, a match of the expression leads to success at its
beginning from success at its end. -/
def Complete (e : Expr) : Prop :=
  ∀ ⦃prog : Program⦄ ⦃hay : Array Char⦄ ⦃base next : Nat⦄, prog.HoldsAt base (e.code base next) →
    ∀ ⦃start stop : Nat⦄ ⦃rounds : List Span⦄, e.Matches hay start stop rounds →
      Succeeds prog hay next stop → Succeeds prog hay base start

theorem succeeds_of_choice {greedy : Bool} {inner : Nat}
    (h : prog[base]? = some (.choice greedy inner next))
    (hsucceeds : Succeeds prog hay inner place ∨ Succeeds prog hay next place) :
    Succeeds prog hay base place := by
  refine .step h fun t ht hplace => ?_
  rcases hsucceeds with hsucceeds | hsucceeds
  · exact ⟨{ t with address := inner }, mem_after_choice.mpr (Or.inl rfl), hplace ▸ hsucceeds⟩
  · exact ⟨{ t with address := next }, mem_after_choice.mpr (Or.inr rfl), hplace ▸ hsucceeds⟩

theorem complete_text (cs : List Char) : (text cs).Complete := by
  induction cs with
  | nil =>
    intro prog hay base next h start stop rounds hmatch hnext
    obtain ⟨-, rfl, -⟩ := matches_text_iff.mp hmatch
    refine .step h.head fun t ht hplace => ⟨_, List.mem_singleton_self _, ?_⟩
    exact hplace ▸ hnext
  | cons c cs ih =>
    intro prog hay base next h start stop rounds hmatch hnext
    rw [code_text_cons] at h
    obtain ⟨hbegins, rfl, -⟩ := matches_text_iff.mp hmatch
    obtain ⟨rest, hrest⟩ := hbegins
    have hc : hay[start]? = some c := by
      rw [getElem?_eq_head?, ← hrest]
      rfl
    have htail : cs <+: ahead hay (start + 1) := by
      rw [ahead_eq_cons hc] at hrest
      exact ⟨rest, (List.cons.inj hrest).2⟩
    refine .step h.head fun t ht hplace => ?_
    refine ⟨{ t with address := base + 1, place := start + 1 }, ?_, ?_⟩
    · rw [Thread.after, hplace, if_pos hc]
      exact List.mem_singleton_self _
    · apply ih h.tail (matches_text_iff.mpr ⟨htail, rfl, rfl⟩)
      rw [List.length_cons] at hnext
      rwa [Nat.add_assoc, Nat.add_comm 1]

theorem Complete.copies (he : e.Complete) (address : Nat → Nat) {k : Nat}
    (hcode : ∀ j < k, prog.HoldsAt (address j) (e.code (address j) (address (j + 1))))
    (h : e.Repeats hay k start stop rounds) (hnext : Succeeds prog hay (address k) stop) :
    Succeeds prog hay (address 0) start := by
  induction k generalizing address start rounds with
  | zero =>
    cases h
    exact hnext
  | succ k ih =>
    cases h with
    | succ hfirst hrest =>
      refine he (hcode 0 (Nat.succ_pos k)) hfirst ?_
      exact ih (fun j => address (j + 1)) (fun j hj => hcode (j + 1) (by omega)) hrest hnext

theorem Complete.loop (he : e.Complete) {greedy : Bool} {choice inner k : Nat}
    (hchoice : prog[choice]? = some (.choice greedy inner next))
    (hcode : prog.HoldsAt inner (e.code inner choice)) (h : e.Repeats hay k start stop rounds)
    (hnext : Succeeds prog hay next stop) : Succeeds prog hay choice start := by
  induction k generalizing start rounds with
  | zero =>
    cases h
    exact succeeds_of_choice hchoice (Or.inr hnext)
  | succ k ih =>
    cases h with
    | succ hfirst hrest =>
      exact succeeds_of_choice hchoice (Or.inl (he hcode hfirst (ih hrest)))

theorem Complete.options (he : e.Complete) {greedy : Bool} (address : Nat → Nat) {k j : Nat}
    (hj : j ≤ k)
    (hchoice : ∀ j < k, prog[address j]? = some (.choice greedy (address j + 1) next))
    (hcode : ∀ j < k, prog.HoldsAt (address j + 1) (e.code (address j + 1) (address (j + 1))))
    (hend : prog[address k]? = some (.jump next)) (h : e.Repeats hay j start stop rounds)
    (hnext : Succeeds prog hay next stop) : Succeeds prog hay (address 0) start := by
  induction k generalizing address j start rounds with
  | zero =>
    obtain rfl := Nat.le_zero.mp hj
    cases h
    exact .step hend fun t ht hplace => ⟨_, List.mem_singleton_self _, hplace ▸ hnext⟩
  | succ k ih =>
    refine succeeds_of_choice (hchoice 0 (Nat.succ_pos k)) ?_
    cases h with
    | zero => exact Or.inr hnext
    | succ hfirst hrest =>
      refine Or.inl (he (hcode 0 (Nat.succ_pos k)) hfirst ?_)
      exact ih (fun j => address (j + 1)) (Nat.le_of_succ_le_succ hj)
        (fun j hj => hchoice (j + 1) (by omega)) (fun j hj => hcode (j + 1) (by omega)) hend hrest

theorem Complete.repetition {body : Expr} (hbody : body.Complete) (min : Nat) (max : Option Nat)
    (greedy : Bool) : (body.repetition min max greedy).Complete := by
  intro prog hay base next h start stop rounds hmatch hnext
  cases hmatch with
  | @repetition _ _ k _ _ _ _ _ hmin hmax hrepeats =>
  obtain ⟨extra, rfl⟩ := Nat.exists_eq_add_of_le hmin
  cases max with
  | some max =>
    have hle := hmax max rfl
    obtain ⟨middle, rounds₁, rounds₂, hdue, hfree⟩ := hrepeats.split
    obtain ⟨hcopies, hoptions, hjump⟩ := holdsAt_bounded h
    have hmiddle := hbody.options (fun j => base + min * body.codeSize + j * (body.codeSize + 1))
      (show extra ≤ max - min by omega) (fun j hj => (hoptions j hj).1)
      (fun j hj => (hoptions j hj).2) hjump hfree hnext
    have hstart := hbody.copies (fun j => base + j * body.codeSize) hcopies hdue
      (by simpa using hmiddle)
    simpa using hstart
  | none =>
    cases min with
    | succ min =>
      obtain ⟨middle, rounds₁, rounds₂, hdue, hfree⟩ := hrepeats.split
      obtain ⟨hcopies, hchoice⟩ := holdsAt_unbounded h
      have hmiddle := hbody.loop hchoice (hcopies min (Nat.lt_succ_self min)) hfree hnext
      have hstart := hbody.copies (fun j => base + j * body.codeSize) hcopies hdue hmiddle
      simpa using hstart
    | zero =>
      rw [Nat.zero_add] at hrepeats
      by_cases hconsumes : body.consumes = true
      · obtain ⟨hchoice, hcode⟩ := holdsAt_star_of_consumes hconsumes h
        exact hbody.loop hchoice hcode hrepeats hnext
      · obtain ⟨hfirst, hcode, hchoice⟩ := holdsAt_star hconsumes h
        refine succeeds_of_choice hfirst ?_
        cases hrepeats with
        | zero => exact Or.inr hnext
        | succ hround hrest =>
          exact Or.inl (hbody hcode hround (hbody.loop hchoice hcode hrest hnext))

theorem Complete.group {body : Expr} (hbody : body.Complete) (index : Nat) :
    (body.group index).Complete := by
  intro prog hay base next h start stop rounds hmatch hnext
  cases hmatch with
  | group hmatch =>
  by_cases hone : index = 1
  · subst hone
    rw [code, if_pos rfl] at h
    obtain ⟨hcode, hleave⟩ := h.tail.append
    rw [length_code, Nat.add_right_comm] at hleave
    have hend : Succeeds prog hay (base + body.codeSize + 1) stop :=
      .step hleave.head fun t ht hplace => ⟨_, List.mem_singleton_self _, hplace ▸ hnext⟩
    have hinner := hbody hcode hmatch hend
    exact .step h.head fun t ht hplace => ⟨_, List.mem_singleton_self _, hplace ▸ hinner⟩
  · rw [code, if_neg hone] at h
    exact hbody h hmatch hnext

/-- The code of an expression goes wherever it matches. -/
theorem complete (e : Expr) : e.Complete := by
  induction e with
  | empty =>
    intro prog hay base next h start stop rounds hmatch hnext
    cases hmatch
    exact .step h.head fun t ht hplace => ⟨_, List.mem_singleton_self _, hplace ▸ hnext⟩
  | text cs => exact complete_text cs
  | set s =>
    intro prog hay base next h start stop rounds hmatch hnext
    cases hmatch with
    | set hc hs =>
      refine .step h.head fun t ht hplace =>
        ⟨{ t with address := next, place := start + 1 }, ?_, hnext⟩
      rw [Thread.after, hplace, hc]
      dsimp only
      rw [if_pos hs]
      exact List.mem_singleton_self _
  | look l =>
    intro prog hay base next h start stop rounds hmatch hnext
    cases hmatch with
    | look hl =>
      refine .step h.head fun t ht hplace => ⟨{ t with address := next }, ?_, hplace ▸ hnext⟩
      rw [Thread.after, hplace, if_pos hl]
      exact List.mem_singleton_self _
  | group index body ih => exact ih.group index
  | repetition body min max greedy ih => exact ih.repetition min max greedy
  | seq a b iha ihb =>
    intro prog hay base next h start stop rounds hmatch hnext
    obtain ⟨hcodeA, hcodeB⟩ := h.append
    rw [length_code] at hcodeB
    cases hmatch with
    | seq hmatch hmatch' => exact iha hcodeA hmatch (ihb hcodeB hmatch' hnext)
  | alt a b iha ihb =>
    intro prog hay base next h start stop rounds hmatch hnext
    obtain ⟨hcodeA, hcodeB⟩ := h.tail.append
    rw [length_code, Nat.add_right_comm] at hcodeB
    refine .step h.head fun t ht hplace => ?_
    cases hmatch with
    | altFirst hmatch =>
      exact ⟨{ t with address := base + 1 }, List.mem_cons_self,
        hplace ▸ iha hcodeA hmatch hnext⟩
    | altRest hmatch =>
      exact ⟨{ t with address := base + a.codeSize + 1 },
        List.mem_cons_of_mem _ (List.mem_singleton_self _), hplace ▸ ihb hcodeB hmatch hnext⟩

/-- What the program of an expression accepts from a place is a match that begins there, and the
last round of the group. -/
theorem exists_matches_of_accepts (h : e.Proper 0)
    (hv : Accepts e.program hay n ⟨0, start, 0, none⟩ v) :
    ∃ rounds, e.Matches hay start v.place rounds ∧ v.group = rounds.getLast? := by
  obtain ⟨hcode, haccept⟩ := e.holdsAt_program
  obtain @⟨m, u, rounds, -, hu, hmatch, hfollows, hrest⟩ := sound_of_proper h hcode rfl hv
  cases hrest with
  | accept => exact ⟨rounds, hmatch, by rw [hfollows.group, Option.or_none]⟩
  | step hi hafter =>
    rw [hu, haccept] at hi
    obtain rfl := Option.some.inj hi
    contradiction

/-- Where a match begins, the program of the expression accepts something. -/
theorem succeeds_of_matches (h : e.Matches hay start stop rounds) :
    Succeeds e.program hay 0 start := by
  obtain ⟨hcode, haccept⟩ := e.holdsAt_program
  refine e.complete hcode h fun t ht _ => ?_
  exact ⟨0, t, .accept (ht ▸ haccept)⟩

end RollCall.Regex.Expr
