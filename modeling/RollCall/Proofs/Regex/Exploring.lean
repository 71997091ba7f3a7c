import RollCall.Proofs.Regex.Completeness

/-! What a search finds. A way that is accepted comes from one that was on the stack; and where the
machine gives up, what it remembers is closed under steps and holds no way that accepts, so that
nothing was missed. -/
namespace RollCall.Regex

variable {prog : Program} {hay : Array Char} {t u v : Thread} {stack : List Thread} {fuel n : Nat}
  {taken : Std.HashSet Nat} {i : Instr}

section Closed

def Instr.targets : Instr → List Nat
  | .set _ next | .char _ next | .look _ next | .jump next | .enter next | .leave next => [next]
  | .split first second => [first, second]
  | .accept => []

theorem address_mem_targets (h : u ∈ t.after hay i) : u.address ∈ i.targets := by
  cases i with
  | set s next =>
    rw [Thread.after] at h
    split at h
    · split at h
      · obtain rfl := List.mem_singleton.mp h
        exact List.mem_singleton_self _
      · contradiction
    · contradiction
  | char c next =>
    rw [Thread.after] at h
    split at h
    · obtain rfl := List.mem_singleton.mp h
      exact List.mem_singleton_self _
    · contradiction
  | look l next =>
    rw [Thread.after] at h
    split at h
    · obtain rfl := List.mem_singleton.mp h
      exact List.mem_singleton_self _
    · contradiction
  | jump next | enter next | leave next =>
    obtain rfl := List.mem_singleton.mp h
    exact List.mem_singleton_self _
  | split first second =>
    rw [Thread.after, List.mem_cons, List.mem_singleton] at h
    rcases h with rfl | rfl
    · exact List.mem_cons_self
    · exact List.mem_cons_of_mem _ (List.mem_singleton_self _)
  | accept => contradiction

def Instr.Within (bound : Nat) (i : Instr) : Prop := ∀ a ∈ i.targets, a ≤ bound

theorem within_singleton {next bound : Nat} (h : next ≤ bound) (hi : i.targets = [next]) :
    i.Within bound := by
  rw [Instr.Within, hi]
  exact List.forall_mem_singleton.mpr h

theorem within_choice (greedy : Bool) {inner outer bound : Nat} (hinner : inner ≤ bound)
    (houter : outer ≤ bound) : (Instr.choice greedy inner outer).Within bound := by
  cases greedy <;> simp [Instr.choice, Instr.Within, Instr.targets, hinner, houter]

/-- The code of an expression leads nowhere but into itself and to where it leaves to. -/
theorem Expr.within_code {e : Expr} {base next bound : Nat} (hnext : next ≤ bound)
    (hbase : base + e.codeSize ≤ bound) : ∀ i ∈ e.code base next, i.Within bound := by
  induction e generalizing base next with
  | empty | set s | look l => exact List.forall_mem_singleton.mpr (within_singleton hnext rfl)
  | text cs =>
    induction cs generalizing base with
    | nil => exact List.forall_mem_singleton.mpr (within_singleton hnext rfl)
    | cons c cs ih =>
      rw [codeSize, List.length_cons] at hbase
      rw [code_text_cons, List.forall_mem_cons]
      exact ⟨within_singleton (by omega) rfl, ih (by rw [codeSize]; omega)⟩
  | group index body ih =>
    rw [codeSize] at hbase
    rw [code]
    split at hbase
    · next hone =>
      rw [if_pos hone, List.forall_mem_cons, List.forall_mem_append, List.forall_mem_singleton]
      exact ⟨within_singleton (by omega) rfl, ih (by omega) (by omega), within_singleton hnext rfl⟩
    · next hone =>
      rw [if_neg hone]
      exact ih hnext hbase
  | repetition body min max greedy ih =>
    have copies {k : Nat} (hk : base + k * body.codeSize ≤ bound) :
        ∀ i ∈ (List.range k).flatMap fun j =>
          body.code (base + j * body.codeSize) (base + (j + 1) * body.codeSize),
        i.Within bound := by
      refine List.forall_mem_flatMap.mpr fun j hj => ?_
      have hle : (j + 1) * body.codeSize ≤ k * body.codeSize :=
        Nat.mul_le_mul_right _ (List.mem_range.mp hj)
      exact ih (by omega) (by rw [Nat.succ_mul] at hle; omega)
    cases max with
    | some max =>
      rw [codeSize] at hbase
      rw [code, List.forall_mem_append, List.forall_mem_append, List.forall_mem_singleton]
      refine ⟨⟨copies (by omega), List.forall_mem_flatMap.mpr fun j hj => ?_⟩,
        within_singleton hnext rfl⟩
      have hle : (j + 1) * (body.codeSize + 1) ≤ (max - min) * (body.codeSize + 1) :=
        Nat.mul_le_mul_right _ (List.mem_range.mp hj)
      rw [Nat.succ_mul] at hle
      exact List.forall_mem_cons.mpr
        ⟨within_choice greedy (by omega) hnext, ih (by omega) (by omega)⟩
    | none =>
      cases min with
      | succ min =>
        rw [codeSize] at hbase
        have hle : min * body.codeSize ≤ (min + 1) * body.codeSize :=
          Nat.mul_le_mul_right _ (Nat.le_succ min)
        rw [code, List.forall_mem_append, List.forall_mem_singleton]
        exact ⟨copies (by omega), within_choice greedy (by omega) hnext⟩
      | zero =>
        rw [codeSize] at hbase
        rw [code]
        split at hbase
        · next hconsumes =>
          rw [if_pos hconsumes, List.forall_mem_cons]
          exact ⟨within_choice greedy (by omega) hnext, ih (by omega) (by omega)⟩
        · next hconsumes =>
          rw [if_neg hconsumes, List.forall_mem_cons, List.forall_mem_append,
            List.forall_mem_singleton]
          exact ⟨within_choice greedy (by omega) hnext, ih (by omega) (by omega),
            within_choice greedy (by omega) hnext⟩
  | seq a b iha ihb =>
    rw [codeSize] at hbase
    rw [code, List.forall_mem_append]
    exact ⟨iha (by omega) (by omega), ihb hnext (by omega)⟩
  | alt a b iha ihb =>
    rw [codeSize] at hbase
    rw [code, List.forall_mem_cons, List.forall_mem_append]
    refine ⟨?_, iha hnext (by omega), ihb hnext (by omega)⟩
    exact List.forall_mem_cons.mpr ⟨by omega, List.forall_mem_singleton.mpr (by omega)⟩

def Program.Closed (prog : Program) : Prop :=
  ∀ ⦃k : Nat⦄ ⦃i : Instr⦄, prog[k]? = some i → ∀ a ∈ i.targets, a < prog.size

theorem Expr.size_program (e : Expr) : e.program.size = e.codeSize + 1 := by
  rw [program, List.size_toArray, List.length_append, length_code, List.length_singleton]

theorem Expr.closed_program (e : Expr) : e.program.Closed := by
  intro k i hi
  have hmem : i ∈ e.code 0 e.codeSize ++ [.accept] := by
    rw [program, List.getElem?_toArray] at hi
    exact List.mem_of_getElem? hi
  have hwithin : i.Within e.codeSize := by
    rcases List.mem_append.mp hmem with hcode | haccept
    · exact within_code (Nat.le_refl _) (by omega) i hcode
    · obtain rfl := List.mem_singleton.mp haccept
      exact List.forall_mem_nil _
  intro a ha
  rw [size_program]
  exact Nat.lt_succ_of_le (hwithin a ha)

end Closed

section Explore

/-- What is found comes from the stack. -/
theorem accepts_of_explore {taken' : Std.HashSet Nat}
    (h : explore prog hay fuel taken stack = (some v, taken')) :
    ∃ t ∈ stack, ∃ n, Accepts prog hay n t v := by
  induction fuel generalizing taken stack with
  | zero => cases (Prod.mk.inj h).1
  | succ fuel ih =>
    cases stack with
    | nil => cases (Prod.mk.inj h).1
    | cons t stack =>
      have lift (h : ∃ u ∈ stack, ∃ n, Accepts prog hay n u v) :
          ∃ u ∈ t :: stack, ∃ n, Accepts prog hay n u v := by
        obtain ⟨u, hu, hv⟩ := h
        exact ⟨u, List.mem_cons_of_mem t hu, hv⟩
      by_cases hkey : taken.contains (t.key prog) = true
      · rw [explore, if_pos hkey] at h
        exact lift (ih h)
      cases hi : prog[t.address]? with
      | none =>
        rw [explore, if_neg hkey, hi] at h
        exact lift (ih h)
      | some i =>
        by_cases haccept : i = .accept
        · subst haccept
          rw [explore, if_neg hkey, hi] at h
          obtain rfl := Option.some.inj (Prod.mk.inj h).1
          exact ⟨t, List.mem_cons_self, 0, .accept hi⟩
        · rw [explore_step hkey hi haccept] at h
          obtain ⟨u, hu, n, hv⟩ := ih h
          rcases List.mem_append.mp hu with hu | hu
          · exact ⟨t, List.mem_cons_self, n + 1, .step hi hu hv⟩
          · exact lift ⟨u, hu, n, hv⟩

/-- No way that is remembered accepts, and each step from one leads to another that is remembered
or still on the stack. -/
def Explored (prog : Program) (hay : Array Char) (taken : Std.HashSet Nat)
    (stack : List Thread) : Prop :=
  ∀ t : Thread, t.address < prog.size → taken.contains (t.key prog) = true →
    ∃ i, prog[t.address]? = some i ∧ i ≠ .accept ∧ ∀ u ∈ t.after hay i,
      taken.contains (u.key prog) = true ∨ ∃ w ∈ stack, w.key prog = u.key prog

theorem Explored.of_nil (h : Explored prog hay taken []) : Explored prog hay taken stack := by
  intro t ht hkey
  obtain ⟨i, hi, hne, hafter⟩ := h t ht hkey
  exact ⟨i, hi, hne, fun u hu => Or.inl ((hafter u hu).resolve_right (by simp))⟩

/-- A way that is remembered may be taken from the stack. -/
theorem Explored.skip (h : Explored prog hay taken (t :: stack))
    (hkey : taken.contains (t.key prog) = true) : Explored prog hay taken stack := by
  intro u hu hukey
  obtain ⟨i, hi, hne, hafter⟩ := h u hu hukey
  refine ⟨i, hi, hne, fun w hw => ?_⟩
  rcases hafter w hw with hw | ⟨x, hx, hxw⟩
  · exact Or.inl hw
  · rcases List.mem_cons.mp hx with rfl | hx
    · exact Or.inl (hxw ▸ hkey)
    · exact Or.inr ⟨x, hx, hxw⟩

theorem exists_after_of_alike {w : Thread} (h : t.Alike u) (hw : w ∈ u.after hay i) :
    ∃ x ∈ t.after hay i, x.key prog = w.key prog := by
  have hafter : List.Forall₂ Thread.Alike (t.after hay i) (u.after hay i) := Thread.alike_after h i
  generalize t.after hay i = ts at hafter ⊢
  generalize u.after hay i = us at hafter hw
  induction hafter with
  | nil => contradiction
  | cons halike _ ih =>
    rcases List.mem_cons.mp hw with rfl | hw
    · exact ⟨_, List.mem_cons_self, by rw [Thread.key, Thread.key, halike.1, halike.2]⟩
    · obtain ⟨x, hx, hkey⟩ := ih hw
      exact ⟨x, List.mem_cons_of_mem _ hx, hkey⟩

/-- A way may be replaced by those after it once it is remembered. -/
theorem Explored.step (h : Explored prog hay taken (t :: stack)) (ht : t.address < prog.size)
    (hi : prog[t.address]? = some i) (hne : i ≠ .accept) :
    Explored prog hay (taken.insert (t.key prog)) (t.after hay i ++ stack) := by
  intro u hu hkey
  rw [Std.HashSet.contains_insert, Bool.or_eq_true, beq_iff_eq] at hkey
  rcases hkey with hkey | hkey
  · -- The way itself, or one that has captured something else.
    have halike := Thread.alike_of_key ht hu hkey
    refine ⟨i, halike.1 ▸ hi, hne, fun w hw => Or.inr ?_⟩
    obtain ⟨x, hx, hxw⟩ := @exists_after_of_alike prog hay t u i w halike hw
    exact ⟨x, List.mem_append_left _ hx, hxw⟩
  · obtain ⟨j, hj, hne', hafter⟩ := h u hu hkey
    refine ⟨j, hj, hne', fun w hw => ?_⟩
    rw [Std.HashSet.contains_insert, Bool.or_eq_true, beq_iff_eq]
    rcases hafter w hw with hw | ⟨x, hx, hxw⟩
    · exact Or.inl (Or.inr hw)
    · rcases List.mem_cons.mp hx with rfl | hx
      · exact Or.inl (Or.inl hxw)
      · exact Or.inr ⟨x, List.mem_append_right _ hx, hxw⟩

/-- What the machine remembers where it gives up. -/
theorem explored_of_explore {taken' : Std.HashSet Nat} (hclosed : prog.Closed)
    (hstack : ∀ t ∈ stack, t.address < prog.size ∧ t.place ≤ hay.size)
    (hfuel : 2 * (untaken prog hay taken).card + stack.length < fuel)
    (hexplored : Explored prog hay taken stack)
    (h : explore prog hay fuel taken stack = (none, taken')) :
    Explored prog hay taken' [] ∧
      (∀ key, taken.contains key = true → taken'.contains key = true) ∧
      ∀ t ∈ stack, taken'.contains (t.key prog) = true := by
  induction fuel generalizing taken stack with
  | zero => omega
  | succ fuel ih =>
    cases stack with
    | nil =>
      obtain ⟨-, rfl⟩ := Prod.mk.inj h
      exact ⟨hexplored, fun _ hkey => hkey, nofun⟩
    | cons t stack =>
      obtain ⟨⟨ht, hplace⟩, hstack⟩ := List.forall_mem_cons.mp hstack
      rw [List.length_cons] at hfuel
      by_cases hkey : taken.contains (t.key prog) = true
      · rw [explore, if_pos hkey] at h
        obtain ⟨hend, hmono, hmem⟩ := ih hstack (by omega) (hexplored.skip hkey) h
        exact ⟨hend, hmono, List.forall_mem_cons.mpr ⟨hmono _ hkey, hmem⟩⟩
      obtain ⟨i, hi⟩ : ∃ i, prog[t.address]? = some i := ⟨_, Array.getElem?_eq_getElem ht⟩
      by_cases haccept : i = .accept
      · rw [explore, if_neg hkey, hi, haccept] at h
        cases (Prod.mk.inj h).1
      rw [explore_step hkey hi haccept] at h
      have hlt := untaken_insert_lt (by simpa using hkey) (key_lt ht hplace)
      obtain ⟨hlength, hafter⟩ := after_bounds hplace i
      have hnext : ∀ u ∈ t.after hay i ++ stack, u.address < prog.size ∧ u.place ≤ hay.size :=
        List.forall_mem_append.mpr
          ⟨fun u hu => ⟨hclosed hi _ (address_mem_targets hu), hafter u hu⟩, hstack⟩
      obtain ⟨hend, hmono, hmem⟩ := ih hnext (by rw [List.length_append]; omega)
        (hexplored.step ht hi haccept) h
      have hself : taken'.contains (t.key prog) = true := hmono _ (by simp)
      exact ⟨hend, fun key hkey => hmono key (by simp [hkey]),
        List.forall_mem_cons.mpr ⟨hself, fun u hu => hmem u (List.mem_append_right _ hu)⟩⟩

/-- Nothing that is remembered in the end leads to an accepting way. -/
theorem Explored.not_accepts (h : Explored prog hay taken []) (hclosed : prog.Closed)
    (ht : t.address < prog.size) (hkey : taken.contains (t.key prog) = true) :
    ¬ Accepts prog hay n t v := by
  intro hv
  induction hv with
  | accept haccept =>
    obtain ⟨i, hi, hne, -⟩ := h _ ht hkey
    exact hne (Option.some.inj (hi.symm.trans haccept))
  | step hi hu _ ih =>
    obtain ⟨j, hj, -, hafter⟩ := h _ ht hkey
    obtain rfl := Option.some.inj (hi.symm.trans hj)
    rcases hafter _ hu with hkey' | ⟨w, hw, -⟩
    · exact ih (hclosed hi _ (address_mem_targets hu)) hkey'
    · contradiction

end Explore

section Search

/-- What a search of so many places comes to: no place has an accepting way, or one has and none
before it. -/
inductive Found (prog : Program) (hay : Array Char) (start count : Nat) : Option Match → Prop
  | none (h : ∀ k, start ≤ k → k < start + count → ∀ n v, ¬ Accepts prog hay n ⟨0, k, 0, .none⟩ v) :
      Found prog hay start count .none
  | some {place n : Nat} {v : Thread} (hplace : start ≤ place) (hlt : place < start + count)
      (hfirst : ∀ k, start ≤ k → k < place → ∀ n v, ¬ Accepts prog hay n ⟨0, k, 0, .none⟩ v)
      (h : Accepts prog hay n ⟨0, place, 0, .none⟩ v) :
      Found prog hay start count (.some ⟨⟨place, v.place⟩, v.group⟩)

theorem found_firstMatch (hclosed : prog.Closed) (hpos : 0 < prog.size) {count start : Nat}
    (hcount : start + count ≤ hay.size + 1) (hexplored : Explored prog hay taken []) :
    Found prog hay start count (firstMatch prog hay count start taken) := by
  induction count generalizing start taken with
  | zero => exact .none fun k hk hlt => by omega
  | succ count ih =>
    rw [firstMatch]
    cases hexplore : explore prog hay (exploreFuel prog hay) taken [⟨0, start, 0, none⟩] with
    | mk found taken' =>
    cases found with
    | some v =>
      obtain ⟨t, ht, n, hv⟩ := accepts_of_explore hexplore
      obtain rfl := List.mem_singleton.mp ht
      exact .some (Nat.le_refl start) (by omega) (fun k hk hlt => by omega) hv
    | none =>
      have hfuel : 2 * (untaken prog hay taken).card + 1 < exploreFuel prog hay := by
        have hcard := @untaken_card_le prog hay taken
        unfold exploreFuel
        omega
      obtain ⟨hend, -, hmem⟩ := explored_of_explore hclosed
        (List.forall_mem_singleton.mpr ⟨hpos, by show start ≤ hay.size; omega⟩) hfuel
        hexplored.of_nil hexplore
      have hfails (n : Nat) (v : Thread) : ¬ Accepts prog hay n ⟨0, start, 0, none⟩ v :=
        hend.not_accepts hclosed hpos (hmem _ (List.mem_singleton_self _))
      have hfirst {k : Nat} (hk : start ≤ k)
          (hlater : start + 1 ≤ k → ∀ n v, ¬ Accepts prog hay n ⟨0, k, 0, none⟩ v) :
          ∀ n v, ¬ Accepts prog hay n ⟨0, k, 0, none⟩ v := by
        rcases Nat.eq_or_lt_of_le hk with rfl | hlt
        · exact hfails
        · exact hlater hlt
      dsimp only
      have hrest : Found prog hay (start + 1) count
          (firstMatch prog hay count (start + 1) taken') := ih (by omega) hend
      generalize firstMatch prog hay count (start + 1) taken' = rest at hrest ⊢
      cases hrest with
      | none h =>
        exact .none fun k hk hlt => hfirst hk fun hk' => h k hk' (by omega)
      | some hplace hlt hbefore hv =>
        exact .some (by omega) (by omega)
          (fun k hk hlt => hfirst hk fun hk' => hbefore k hk' hlt) hv

/-- What a search from a place to the end of the text finds. -/
theorem found_search (hclosed : prog.Closed) (hpos : 0 < prog.size) {start : Nat}
    (hstart : start ≤ hay.size + 1) :
    Found prog hay start (hay.size + 1 - start) (search prog hay start) := by
  refine found_firstMatch hclosed hpos (by omega) fun t _ hkey => ?_
  rw [Std.HashSet.contains_empty] at hkey
  contradiction

end Search

end RollCall.Regex
