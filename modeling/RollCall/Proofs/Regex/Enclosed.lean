import RollCall.Proofs.Regex.Exploring

/-! An expression without groups, and the same expression as the first capture group. The code of the
body stands one address later, and the machine takes the same ways through it in the same order. So
the matches are the same, and the group of each of them is all of it. -/
namespace RollCall.Regex

variable {hay : Array Char} {t u v : Thread} {stack : List Thread} {fuel start : Nat}
  {taken taken' : Std.HashSet Nat} {i : Instr} {e : Expr}

section Relocation

/-- The instruction in code that stands `d` addresses later. -/
def Instr.relocated (d : Nat) : Instr → Instr
  | .set s next => .set s (next + d)
  | .char c next => .char c (next + d)
  | .look l next => .look l (next + d)
  | .jump next => .jump (next + d)
  | .split first second => .split (first + d) (second + d)
  | .enter next => .enter (next + d)
  | .leave next => .leave (next + d)
  | .accept => .accept

/-- The instruction does not say where the group is, and does not end the search. -/
def Instr.Plain : Instr → Prop
  | .enter _ | .leave _ | .accept => False
  | .set _ _ | .char _ _ | .look _ _ | .jump _ | .split _ _ => True

theorem Instr.Plain.ne_accept (h : i.Plain) : i ≠ .accept := by
  rintro rfl
  exact h

theorem plain_relocated (h : i.Plain) (d : Nat) : (i.relocated d).Plain := by
  cases i <;> trivial

theorem plain_choice (greedy : Bool) (inner outer : Nat) :
    (Instr.choice greedy inner outer).Plain := by
  cases greedy <;> trivial

theorem Instr.relocated_choice (d : Nat) (greedy : Bool) (inner outer : Nat) :
    (Instr.choice greedy inner outer).relocated d = .choice greedy (inner + d) (outer + d) := by
  cases greedy <;> rfl

namespace Expr

/-- Copies of a body in code that stands later. -/
theorem copies_relocated {body : Expr} {d : Nat}
    (hbody : ∀ base next,
      body.code (base + d) (next + d) = (body.code base next).map (Instr.relocated d))
    (base k : Nat) :
    ((List.range k).flatMap fun j =>
        body.code (base + d + j * body.codeSize) (base + d + (j + 1) * body.codeSize)) =
      ((List.range k).flatMap fun j =>
        body.code (base + j * body.codeSize) (base + (j + 1) * body.codeSize)).map
          (Instr.relocated d) := by
  rw [List.map_flatMap]
  congr 1
  funext j
  rw [Nat.add_right_comm base d, Nat.add_right_comm base d, hbody]

/-- Code does not depend on where it stands but for the addresses that it names. -/
theorem code_relocated (e : Expr) (base next d : Nat) :
    e.code (base + d) (next + d) = (e.code base next).map (Instr.relocated d) := by
  induction e generalizing base next with
  | empty | set | look => rfl
  | text cs =>
    induction cs generalizing base with
    | nil => rfl
    | cons c cs ih =>
      rw [code_text_cons, code_text_cons, List.map_cons, Nat.add_right_comm, ih]
      rfl
  | group index body ih =>
    rw [code, code]
    split
    · have hlast : base + d + body.codeSize + 1 = base + body.codeSize + 1 + d := by omega
      simp only [hlast, Nat.add_right_comm base d 1, ih, List.map_cons, List.map_append,
        List.map_nil, Instr.relocated]
    · exact ih base next
  | repetition body min max greedy ih =>
    have hcopies := copies_relocated ih base
    cases max with
    | some max =>
      rw [code, code, List.map_append, List.map_append, hcopies]
      congr 2
      rw [List.map_flatMap]
      congr 1
      funext k
      have hstart : base + d + min * body.codeSize + k * (body.codeSize + 1) =
          base + min * body.codeSize + k * (body.codeSize + 1) + d := by omega
      have hend (start : Nat) : start + d + body.codeSize + 1 = start + body.codeSize + 1 + d := by
        omega
      simp only [hstart, hend, Nat.add_right_comm _ d 1, ih, List.map_cons,
        Instr.relocated_choice]
    | none =>
      cases min with
      | succ min =>
        rw [code, code, List.map_append, hcopies, Nat.add_right_comm, List.map_singleton,
          Instr.relocated_choice]
      | zero =>
        have hend : base + d + body.codeSize + 1 = base + body.codeSize + 1 + d := by omega
        rw [code, code]
        split
        · simp only [Nat.add_right_comm base d 1, ih, List.map_cons, Instr.relocated_choice]
        · simp only [hend, Nat.add_right_comm base d 1, ih, List.map_cons, List.map_append,
            List.map_nil, Instr.relocated_choice]
  | seq a b iha ihb =>
    rw [code, code, List.map_append, Nat.add_right_comm, iha, ihb]
  | alt a b iha ihb =>
    have hsecond : base + d + a.codeSize + 1 = base + a.codeSize + 1 + d := by omega
    simp only [code, hsecond, Nat.add_right_comm base d 1, iha, ihb, List.map_cons,
      List.map_append, Instr.relocated]

/-- The code of an expression without groups leaves the group alone. -/
theorem plain_code (h : e.hasGroup = false) (base next : Nat) :
    ∀ i ∈ e.code base next, i.Plain := by
  induction e generalizing base next with
  | empty | set | look => exact List.forall_mem_singleton.mpr trivial
  | text cs =>
    induction cs generalizing base with
    | nil => exact List.forall_mem_singleton.mpr trivial
    | cons c cs ih =>
      rw [code_text_cons]
      exact List.forall_mem_cons.mpr ⟨trivial, ih rfl (base + 1)⟩
  | group index body ih => contradiction
  | repetition body min max greedy ih =>
    have hcopies {l : List Nat} {first last : Nat → Nat} :
        ∀ i ∈ l.flatMap fun j => body.code (first j) (last j), i.Plain :=
      List.forall_mem_flatMap.mpr fun j _ => ih h (first j) (last j)
    have hchoice (inner outer : Nat) : (Instr.choice greedy inner outer).Plain :=
      plain_choice greedy inner outer
    cases max with
    | some max =>
      rw [code, List.forall_mem_append, List.forall_mem_append, List.forall_mem_singleton]
      refine ⟨⟨hcopies, List.forall_mem_flatMap.mpr fun j _ => ?_⟩, trivial⟩
      exact List.forall_mem_cons.mpr ⟨hchoice _ _, ih h _ _⟩
    | none =>
      cases min with
      | succ min =>
        rw [code, List.forall_mem_append, List.forall_mem_singleton]
        exact ⟨hcopies, hchoice _ _⟩
      | zero =>
        rw [code]
        split
        · exact List.forall_mem_cons.mpr ⟨hchoice _ _, ih h _ _⟩
        · rw [List.forall_mem_cons, List.forall_mem_append, List.forall_mem_singleton]
          exact ⟨hchoice _ _, ih h _ _, hchoice _ _⟩
  | seq a b iha ihb =>
    rw [hasGroup, Bool.or_eq_false_iff] at h
    rw [code, List.forall_mem_append]
    exact ⟨iha h.1 _ _, ihb h.2 _ _⟩
  | alt a b iha ihb =>
    rw [hasGroup, Bool.or_eq_false_iff] at h
    rw [code, List.forall_mem_cons, List.forall_mem_append]
    exact ⟨trivial, iha h.1 _ _, ihb h.2 _ _⟩

def enclosed (e : Expr) : Expr := .group 1 e

theorem size_program_enclosed (e : Expr) : e.enclosed.program.size = e.codeSize + 3 :=
  e.enclosed.size_program

/-- The program of the enclosed expression: the group is entered, then comes the code of the
expression, and behind it the group is left. -/
theorem getElem?_program_enclosed (e : Expr) :
    e.enclosed.program[0]? = some (.enter 1) ∧
      e.enclosed.program[e.codeSize + 1]? = some (.leave (e.codeSize + 2)) ∧
      e.enclosed.program[e.codeSize + 2]? = some .accept := by
  obtain ⟨hcode, haccept⟩ := e.enclosed.holdsAt_program
  have hgroup : e.enclosed.code 0 e.enclosed.codeSize = .enter 1 ::
      (e.code 1 (0 + e.codeSize + 1) ++ [.leave (e.codeSize + 2)]) := rfl
  rw [hgroup] at hcode
  have hleave := hcode.tail.append.2.head
  rw [length_code, Nat.zero_add, Nat.add_comm] at hleave
  exact ⟨hcode.head, hleave, haccept⟩

/-- The instructions of an expression without groups, and what they are behind the entry of the
group. -/
theorem exists_instr_of_lt (h : e.hasGroup = false) {a : Nat} (ha : a < e.codeSize) :
    ∃ i, i.Plain ∧ e.program[a]? = some i ∧
      e.enclosed.program[a + 1]? = some (i.relocated 1) := by
  obtain ⟨hcode, -⟩ := e.holdsAt_program
  obtain ⟨hcode', -⟩ := e.enclosed.holdsAt_program
  have hbody : e.enclosed.code 0 e.enclosed.codeSize = .enter 1 ::
      ((e.code 0 e.codeSize).map (Instr.relocated 1) ++ [.leave (e.codeSize + 2)]) := by
    rw [← code_relocated, Nat.zero_add]
    show Instr.enter 1 :: (e.code 1 (0 + e.codeSize + 1) ++ _) = _
    rw [Nat.zero_add]
    rfl
  rw [hbody] at hcode'
  have hlt : a < (e.code 0 e.codeSize).length := by rwa [length_code]
  have hi := List.getElem?_eq_getElem hlt
  have hat := hcode a _ hi
  have hat' := hcode'.tail.append.1 a ((e.code 0 e.codeSize)[a].relocated 1)
    (by rw [List.getElem?_map, hi, Option.map_some])
  rw [Nat.zero_add] at hat
  rw [Nat.zero_add, Nat.add_comm] at hat'
  exact ⟨_, plain_code h 0 e.codeSize _ (List.getElem_mem hlt), hat, hat'⟩

end Expr

end Relocation

section Lockstep

/-- A way through an expression, as it is within the group that was entered at `start`. -/
def Thread.inGroup (start : Nat) (t : Thread) : Thread := ⟨t.address + 1, t.place, start, none⟩

/-- Within the group the machine goes on as without it. -/
theorem Thread.after_inGroup (hi : i.Plain) :
    (t.inGroup start).after hay (i.relocated 1) = (t.after hay i).map (Thread.inGroup start) := by
  cases i with
  | set s next =>
    simp only [Instr.relocated, Thread.after, Thread.inGroup]
    cases hay[t.place]? with
    | none => rfl
    | some c =>
      dsimp only
      rw [apply_ite (List.map _)]
      rfl
  | char c next | look l next =>
    simp only [Instr.relocated, Thread.after]
    rw [apply_ite (List.map _)]
    rfl
  | jump next | split first second => rfl
  | enter next | leave next | accept => contradiction

theorem Thread.key_eq_iff {prog : Program} (ht : t.address < prog.size)
    (hu : u.address < prog.size) : t.key prog = u.key prog ↔ t.Alike u := by
  refine ⟨Thread.alike_of_key ht hu, fun halike => ?_⟩
  rw [Thread.key, Thread.key, halike.1, halike.2]

/-- What the two machines remember: the same of the ways through the expression, and nothing of the
entry from a place on where no search began yet, or of the end. -/
structure Mirrors (e : Expr) (start : Nat) (taken taken' : Std.HashSet Nat) : Prop where
  body : ∀ t : Thread, t.address ≤ e.codeSize → ∀ entered,
    taken'.contains ((t.inGroup entered).key e.enclosed.program) =
      taken.contains (t.key e.program)
  entry : ∀ t : Thread, t.address = 0 → start ≤ t.place →
    taken'.contains (t.key e.enclosed.program) = false
  accept : ∀ t : Thread, t.address = e.codeSize + 2 →
    taken'.contains (t.key e.enclosed.program) = false

theorem mirrors_empty (e : Expr) (start : Nat) : Mirrors e start ∅ ∅ where
  body _ _ _ := by rw [Std.HashSet.contains_empty, Std.HashSet.contains_empty]
  entry _ _ _ := Std.HashSet.contains_empty
  accept _ _ := Std.HashSet.contains_empty

/-- What is remembered of the entry or the end of the group is no way through the expression. -/
theorem key_inGroup_ne {entered : Nat} (ht : t.address ≤ e.codeSize)
    (hu : u.address = 0 ∨ u.address = e.codeSize + 2) :
    (t.inGroup entered).key e.enclosed.program ≠ u.key e.enclosed.program := by
  intro h
  have hsize := e.size_program_enclosed
  have hlt : t.address + 1 < e.enclosed.program.size := by omega
  have haddress : t.address + 1 = u.address :=
    (Thread.alike_of_key (t := t.inGroup entered) hlt (by omega) h).1
  omega

/-- A way through the expression is remembered by both machines. -/
theorem Mirrors.insert (h : Mirrors e start taken taken') (ht : t.address ≤ e.codeSize)
    (entered : Nat) : Mirrors e start (taken.insert (t.key e.program))
      (taken'.insert ((t.inGroup entered).key e.enclosed.program)) where
  body u hu entered' := by
    have hsize := e.size_program
    have hsize' := e.size_program_enclosed
    have hkey : (t.inGroup entered).key e.enclosed.program =
        (u.inGroup entered').key e.enclosed.program ↔ t.key e.program = u.key e.program := by
      rw [Thread.key_eq_iff (t := t.inGroup entered)
        (by show t.address + 1 < _; omega) (by show u.address + 1 < _; omega),
        Thread.key_eq_iff (by omega) (by omega)]
      exact and_congr_left fun _ => Nat.succ_inj
    rw [Std.HashSet.contains_insert, Std.HashSet.contains_insert, h.body u hu entered',
      Bool.beq_eq_decide_eq, Bool.beq_eq_decide_eq, decide_eq_decide.mpr hkey]
  entry u hu hplace := by
    rw [Std.HashSet.contains_insert, h.entry u hu hplace, Bool.or_false, beq_eq_false_iff_ne]
    exact key_inGroup_ne ht (Or.inl hu)
  accept u hu := by
    rw [Std.HashSet.contains_insert, h.accept u hu, Bool.or_false, beq_eq_false_iff_ne]
    exact key_inGroup_ne ht (Or.inr hu)

/-- Only the machine with the group remembers that a search began at a place. -/
theorem Mirrors.enter (h : Mirrors e start taken taken') (ht : t.address = 0)
    (hplace : t.place = start) :
    Mirrors e (start + 1) taken (taken'.insert (t.key e.enclosed.program)) where
  body u hu entered := by
    rw [Std.HashSet.contains_insert, beq_eq_false_iff_ne.mpr (key_inGroup_ne hu (Or.inl ht)).symm,
      Bool.false_or, h.body u hu]
  entry u hu hle := by
    rw [Std.HashSet.contains_insert, h.entry u hu (by omega), Bool.or_false, beq_eq_false_iff_ne]
    intro hkey
    have hsize := e.size_program_enclosed
    have halike := Thread.alike_of_key (by omega) (by omega) hkey
    have := halike.2
    omega
  accept u hu := by
    rw [Std.HashSet.contains_insert, h.accept u hu, Bool.or_false, beq_eq_false_iff_ne]
    intro hkey
    have hsize := e.size_program_enclosed
    have halike := Thread.alike_of_key (by omega) (by omega) hkey
    have := halike.1
    omega

/-- The machines fail with the same in mind, or both find the same, the second one with all of it as
the group. -/
inductive Agrees (e : Expr) (start : Nat) :
    Option Thread × Std.HashSet Nat → Option Thread × Std.HashSet Nat → Prop
  | fail {taken taken' : Std.HashSet Nat} (h : Mirrors e (start + 1) taken taken') :
      Agrees e start (none, taken) (none, taken')
  | found {v : Thread} {taken taken' : Std.HashSet Nat} : Agrees e start (some v, taken)
      (some ⟨e.codeSize + 2, v.place, start, some ⟨start, v.place⟩⟩, taken')

theorem explore_accept {prog : Program} (hkey : ¬ taken.contains (t.key prog) = true)
    (h : prog[t.address]? = some .accept) :
    explore prog hay (fuel + 1) taken (t :: stack) = (some t, taken) := by
  rw [explore, if_neg hkey, h]

/-- Step by step the machines do the same. At the end, the second one has one step more to go. -/
theorem agrees_explore (hgroup : e.hasGroup = false) (extra : Nat)
    (hstack : ∀ t ∈ stack, t.address ≤ e.codeSize ∧ t.place ≤ hay.size)
    (hfuel : 2 * (untaken e.program hay taken).card + stack.length < fuel)
    (h : Mirrors e (start + 1) taken taken') :
    Agrees e start (explore e.program hay fuel taken stack)
      (explore e.enclosed.program hay (extra + fuel + 1) taken'
        (stack.map (Thread.inGroup start))) := by
  induction fuel generalizing taken taken' stack with
  | zero => omega
  | succ fuel ih =>
    cases stack with
    | nil => exact .fail h
    | cons t stack =>
      obtain ⟨⟨ht, hplace⟩, hstack⟩ := List.forall_mem_cons.mp hstack
      have hsame := h.body t ht start
      rw [List.length_cons] at hfuel
      rw [List.map_cons]
      by_cases hkey : taken.contains (t.key e.program) = true
      · rw [explore, if_pos hkey, explore, if_pos (hsame.trans hkey)]
        exact ih hstack (by omega) h
      have hkey' : ¬ taken'.contains ((t.inGroup start).key e.enclosed.program) = true := by
        rwa [hsame]
      rcases Nat.lt_or_eq_of_le ht with hlt | hend
      · obtain ⟨i, hplain, hi, hi'⟩ := Expr.exists_instr_of_lt hgroup hlt
        rw [explore_step hkey hi hplain.ne_accept,
          explore_step hkey' hi' (plain_relocated hplain 1).ne_accept,
          Thread.after_inGroup hplain, ← List.map_append]
        have hsize := e.size_program
        have hlt' := untaken_insert_lt (by simpa using hkey) (key_lt (by omega) hplace)
        obtain ⟨hlength, hafter⟩ := after_bounds hplace i
        refine ih (List.forall_mem_append.mpr ⟨fun u hu => ?_, hstack⟩) ?_ (h.insert ht start)
        · have haddress := e.closed_program hi _ (address_mem_targets hu)
          exact ⟨by omega, hafter u hu⟩
        · rw [List.length_append]
          omega
      · -- The first machine accepts; the second one leaves the group and accepts then.
        obtain ⟨-, haccept⟩ := e.holdsAt_program
        obtain ⟨-, hleave, haccept'⟩ := e.getElem?_program_enclosed
        rw [← hend] at haccept
        have hleave' : e.enclosed.program[(t.inGroup start).address]? =
            some (.leave (e.codeSize + 2)) := by rw [Thread.inGroup, hend, hleave]
        rw [explore_accept hkey haccept, explore_step hkey' hleave' (by simp)]
        show Agrees e start _ (explore _ hay (extra + fuel + 1) _
          (⟨e.codeSize + 2, t.place, start, some ⟨start, t.place⟩⟩ :: _))
        rw [explore_accept ?_ haccept']
        · exact .found
        · rw [(h.insert ht start).accept _ rfl]
          exact Bool.false_ne_true

end Lockstep

section Search

def Match.whole (m : Match) : Match := { m with group := some m.span }

theorem firstMatch_enclosed (hgroup : e.hasGroup = false) {count : Nat}
    (hcount : start + count ≤ hay.size + 1) (h : Mirrors e start taken taken') :
    firstMatch e.enclosed.program hay count start taken' =
      (firstMatch e.program hay count start taken).map Match.whole := by
  induction count generalizing start taken taken' with
  | zero => rfl
  | succ count ih =>
    have hfuel : 2 * (untaken e.program hay taken).card + 1 < exploreFuel e.program hay := by
      have hcard := @untaken_card_le e.program hay taken
      unfold exploreFuel
      omega
    obtain ⟨extra, hextra⟩ : ∃ extra, exploreFuel e.enclosed.program hay =
        extra + exploreFuel e.program hay + 1 + 1 := by
      refine ⟨4 * (hay.size + 1) - 2, ?_⟩
      rw [exploreFuel, exploreFuel, e.size_program_enclosed, e.size_program]
      have : (e.codeSize + 3) * (hay.size + 1) =
          (e.codeSize + 1) * (hay.size + 1) + 2 * (hay.size + 1) := by ring
      omega
    obtain ⟨henter, -⟩ := e.getElem?_program_enclosed
    have hkey : ¬ taken'.contains (Thread.key e.enclosed.program ⟨0, start, 0, none⟩) = true := by
      rw [h.entry _ rfl (Nat.le_refl start)]
      exact Bool.false_ne_true
    have hagrees : Agrees e start
        (explore e.program hay (exploreFuel e.program hay) taken [⟨0, start, 0, none⟩])
        (explore e.enclosed.program hay (extra + exploreFuel e.program hay + 1)
          (taken'.insert (Thread.key e.enclosed.program ⟨0, start, 0, none⟩))
          [⟨1, start, start, none⟩]) :=
      agrees_explore hgroup extra
        (List.forall_mem_singleton.mpr ⟨Nat.zero_le _, by show start ≤ hay.size; omega⟩) hfuel
        (h.enter rfl rfl)
    have hafter : Thread.after hay ⟨0, start, 0, none⟩ (.enter 1) ++ [] =
        [⟨1, start, start, none⟩] := rfl
    rw [firstMatch, firstMatch, hextra, explore_step hkey henter (by simp), hafter]
    generalize explore e.program hay _ taken _ = outcome at hagrees ⊢
    generalize explore e.enclosed.program hay _ _ _ = outcome' at hagrees ⊢
    cases hagrees with
    | fail h => exact ih (by omega) h
    | found => rfl

theorem search_enclosed (hgroup : e.hasGroup = false) (start : Nat) :
    search e.enclosed.program hay start = (search e.program hay start).map Match.whole := by
  by_cases hstart : start ≤ hay.size + 1
  · exact firstMatch_enclosed hgroup (by omega) (mirrors_empty e start)
  · have hcount : hay.size + 1 - start = 0 := by omega
    rw [search, search, hcount]
    rfl

theorem nextMatch_enclosed (hgroup : e.hasGroup = false) (start : Nat) (last : Option Nat) :
    nextMatch e.enclosed.program hay start last =
      (nextMatch e.program hay start last).map Match.whole := by
  rw [nextMatch, nextMatch, search_enclosed hgroup, search_enclosed hgroup]
  cases search e.program hay start with
  | none => rfl
  | some m =>
    dsimp only [Option.map_some, Match.whole]
    split <;> rfl

theorem collectMatches_enclosed (hgroup : e.hasGroup = false) {last : Option Nat}
    {found : List Match} :
    collectMatches e.enclosed.program hay fuel start last (found.map Match.whole) =
      (collectMatches e.program hay fuel start last found).map Match.whole := by
  induction fuel generalizing start last found with
  | zero => exact List.map_reverse.symm
  | succ fuel ih =>
    rw [collectMatches, collectMatches, nextMatch_enclosed hgroup]
    cases nextMatch e.program hay start last with
    | none => exact List.map_reverse.symm
    | some m => exact @ih m.span.stop (some m.span.stop) (m :: found)

/-- Enclosing an expression without groups changes nothing about its matches, and the group of each
of them is all of it. -/
theorem allMatches_enclosed (hgroup : e.hasGroup = false) (hay : Array Char) :
    allMatches e.enclosed.program hay = (allMatches e.program hay).map Match.whole :=
  @collectMatches_enclosed hay (hay.size + 2) 0 e hgroup none []

end Search

end RollCall.Regex
