import Mathlib.Algebra.BigOperators.Group.List.Basic
import RollCall.Proofs.Regex.Memory

/-! What the code of an expression does, told by lengths: wherever the code stands in a program, a
way at its beginning goes on as ways at its end, in order of preference. This is said of expressions
without groups and conditions, for which the text ahead decides everything. -/
namespace RollCall.Regex

variable {prog : Program} {hay : Array Char} {t : Thread} {stack : List Thread}
  {r : Option Thread} {base next : Nat}

/-- The machine without a memory comes to an end, with this way if there is one. -/
def Runs (prog : Program) (hay : Array Char) (stack : List Thread) (r : Option Thread) : Prop :=
  ∃ n, Halts prog hay n stack r

theorem Runs.step {i : Instr} (h : prog[t.address]? = some i) (hi : i ≠ .accept)
    (hr : Runs prog hay (t.after hay i ++ stack) r) : Runs prog hay (t :: stack) r := by
  obtain ⟨n, hn⟩ := hr
  exact ⟨n + 1, .step h hi hn⟩

/-- The lower part of a stack may be replaced by one that runs in the same way. -/
theorem Runs.append_congr {upper lower lower' : List Thread}
    (h : Runs prog hay (upper ++ lower) r)
    (hlower : ∀ {r}, Runs prog hay lower r → Runs prog hay lower' r) :
    Runs prog hay (upper ++ lower') r := by
  obtain ⟨n, hn⟩ := h
  rcases hn.of_append with ⟨k, m, -, hupper, hrest⟩ | ⟨t, rfl, hupper⟩
  · obtain ⟨m', hrest'⟩ := hlower ⟨m, hrest⟩
    exact ⟨k + m', hupper.append hrest'⟩
  · exact ⟨n, hupper.append_some lower'⟩

/-- Where each way of a list goes on as some others, the list goes on as all of them in order. -/
theorem Runs.expand {l : List Nat} {way : Nat → Thread} {ways : Nat → List Thread}
    (hway : ∀ n ∈ l, ∀ {stack r}, Runs prog hay (ways n ++ stack) r →
      Runs prog hay (way n :: stack) r)
    (h : Runs prog hay (l.flatMap ways ++ stack) r) : Runs prog hay (l.map way ++ stack) r := by
  induction l generalizing stack r with
  | nil => exact h
  | cons n l ih =>
    rw [List.flatMap_cons, List.append_assoc] at h
    apply hway n List.mem_cons_self
    apply h.append_congr
    intro r hr
    exact ih (fun m hm => hway m (List.mem_cons_of_mem n hm)) hr

/-- The code stands in the program from this address on. -/
def Program.HoldsAt (prog : Program) (base : Nat) (code : List Instr) : Prop :=
  ∀ k i, code[k]? = some i → prog[base + k]? = some i

theorem Program.HoldsAt.append {a b : List Instr} (h : prog.HoldsAt base (a ++ b)) :
    prog.HoldsAt base a ∧ prog.HoldsAt (base + a.length) b := by
  constructor
  · intro k i hk
    obtain ⟨hlt, -⟩ := List.getElem?_eq_some_iff.mp hk
    exact h k i (by rw [List.getElem?_append_left hlt, hk])
  · intro k i hk
    rw [Nat.add_assoc]
    apply h
    rw [List.getElem?_append_right (Nat.le_add_right _ _), Nat.add_sub_cancel_left, hk]

theorem Program.HoldsAt.head {i : Instr} {code : List Instr} (h : prog.HoldsAt base (i :: code)) :
    prog[base]? = some i := h 0 i rfl

theorem Program.HoldsAt.tail {i : Instr} {code : List Instr} (h : prog.HoldsAt base (i :: code)) :
    prog.HoldsAt (base + 1) code := (h.append (a := [i])).2

def Thread.moved (t : Thread) (next length : Nat) : Thread :=
  { t with address := next, place := t.place + length }

theorem Thread.moved_moved (t : Thread) (middle next n m : Nat) :
    (t.moved middle n).moved next m = t.moved next (n + m) := by
  rw [moved, moved, moved, Nat.add_assoc]

def ahead (hay : Array Char) (place : Nat) : List Char := hay.toList.drop place

theorem ahead_add (hay : Array Char) (place n : Nat) :
    ahead hay (place + n) = (ahead hay place).drop n := by
  rw [ahead, ahead, List.drop_drop]

theorem getElem?_eq_head? (hay : Array Char) (place : Nat) :
    hay[place]? = (ahead hay place).head? := by
  rw [ahead, List.head?_drop, Array.getElem?_toList]

theorem length_ahead (hay : Array Char) (place : Nat) :
    (ahead hay place).length = hay.size - place := by
  rw [ahead, List.length_drop, Array.length_toList]

namespace Expr

variable {e a b : Expr} {f g : List Char → List Nat}

theorem length_code (e : Expr) (base next : Nat) : (e.code base next).length = e.codeSize := by
  induction e generalizing base next with
  | empty | set | look => rfl
  | text cs => simp [code, codeSize]
  | group index body ih =>
    unfold code codeSize
    split
    · simp [ih]
    · exact ih base next
  | seq a b iha ihb => simp [code, codeSize, iha, ihb]
  | alt a b iha ihb =>
    simp [code, codeSize, iha, ihb]
  | repetition body min max greedy ih =>
    cases max with
    | some max =>
      simp [code, codeSize, ih, List.length_flatMap, Nat.add_assoc]
    | none =>
      cases min with
      | zero =>
        simp only [code, codeSize]
        split <;> simp [ih]
      | succ min =>
        simp [code, codeSize, ih, List.length_flatMap]

/-- Wherever the code of the expression stands, a way at its beginning goes on as ways at its end,
one for each length that `f` gives for the text ahead, in the same order. -/
def Reaches (e : Expr) (f : List Char → List Nat) : Prop :=
  ∀ ⦃prog : Program⦄ ⦃hay : Array Char⦄ ⦃base next : Nat⦄, prog.HoldsAt base (e.code base next) →
    ∀ ⦃t : Thread⦄ ⦃stack : List Thread⦄ ⦃r : Option Thread⦄, t.address = base →
      Runs prog hay ((f (ahead hay t.place)).map (t.moved next) ++ stack) r →
      Runs prog hay (t :: stack) r

theorem reaches_empty : empty.Reaches fun _ => [0] := by
  intro prog hay base next h t stack r rfl hr
  exact .step h.head nofun hr

def textLengths (cs : List Char) (ahead : List Char) : List Nat :=
  if cs.isPrefixOf ahead then [cs.length] else []

theorem code_text_cons (c : Char) (cs : List Char) (base next : Nat) :
    (text (c :: cs)).code base next = .char c (base + 1) :: (text cs).code (base + 1) next := by
  simp only [code, List.mapIdx_cons, List.cons_append, Nat.add_zero]
  congr 3
  funext k c
  congr 1
  omega

theorem reaches_text (cs : List Char) : (text cs).Reaches (textLengths cs) := by
  induction cs with
  | nil => exact reaches_empty
  | cons c cs ih =>
    intro prog hay base next h t stack r rfl hr
    rw [code_text_cons] at h
    refine .step h.head nofun ?_
    simp only [Thread.after, getElem?_eq_head?]
    cases hahead : ahead hay t.place with
    | nil =>
      rw [hahead] at hr
      exact hr
    | cons x xs =>
      have hxs : ahead hay (t.place + 1) = xs := by
        rw [ahead_add, hahead, List.drop_one, List.tail_cons]
      rw [hahead, textLengths, List.isPrefixOf_cons_cons] at hr
      by_cases hx : c = x
      · rw [if_pos (by rw [hx, List.head?_cons])]
        apply ih h.tail (t := t.moved (t.address + 1) 1) rfl
        show Runs prog hay ((textLengths cs (ahead hay (t.place + 1))).map _ ++ stack) r
        rw [hxs, textLengths]
        cases hrest : cs.isPrefixOf xs with
        | true =>
          rw [if_pos (by simp [hx, hrest])] at hr
          rw [if_pos rfl, List.map_singleton, Thread.moved_moved, Nat.add_comm]
          exact hr
        | false =>
          rw [if_neg (by simp [hrest])] at hr
          exact hr
      · rw [if_neg (by simpa [eq_comm] using hx)]
        rw [if_neg (by simp [hx])] at hr
        exact hr

def setLengths (s : CharSet) : List Char → List Nat
  | [] => []
  | c :: _ => if s.contains c then [1] else []

theorem reaches_set (s : CharSet) : (set s).Reaches (setLengths s) := by
  intro prog hay base next h t stack r rfl hr
  refine .step h.head nofun ?_
  simp only [Thread.after, getElem?_eq_head?]
  cases hahead : ahead hay t.place with
  | nil =>
    rw [hahead] at hr
    exact hr
  | cons c cs =>
    rw [hahead, setLengths] at hr
    dsimp only [List.head?_cons]
    cases hc : s.contains c with
    | true =>
      rw [if_pos hc] at hr
      exact hr
    | false =>
      rw [if_neg (by simp [hc])] at hr
      exact hr

def seqLengths (f g : List Char → List Nat) (ahead : List Char) : List Nat :=
  (f ahead).flatMap fun n => (g (ahead.drop n)).map (n + ·)

theorem Reaches.seq (ha : a.Reaches f) (hb : b.Reaches g) :
    (a.seq b).Reaches (seqLengths f g) := by
  intro prog hay base next h t stack r rfl hr
  obtain ⟨hcodeA, hcodeB⟩ := h.append
  rw [length_code] at hcodeB
  apply ha hcodeA rfl
  rw [seqLengths, List.map_flatMap] at hr
  refine hr.expand fun n _ stack r hn => ?_
  apply hb hcodeB (t := t.moved _ n) rfl
  show Runs prog hay ((g (ahead hay (t.place + n))).map _ ++ stack) r
  rw [ahead_add]
  simp only [List.map_map] at hn
  have hmoved : (t.moved next ∘ fun m => n + m) =
      (t.moved (t.address + a.codeSize) n).moved next := by
    funext m
    exact (t.moved_moved _ next n m).symm
  rwa [hmoved] at hn

/-- The lengths of one or more rounds, many before few. A round that takes nothing has no other
after it. -/
def roundsLengths (f : List Char → List Nat) (ahead : List Char) : List Nat :=
  (f ahead).flatMap fun n =>
    (if 0 < n ∧ n ≤ ahead.length then (roundsLengths f (ahead.drop n)).map (n + ·) else []) ++ [n]
termination_by ahead.length
decreasing_by
  rw [List.length_drop]
  omega

def Takes (f : List Char → List Nat) : Prop :=
  ∀ ahead, ∀ n ∈ f ahead, 0 < n ∧ n ≤ ahead.length

theorem Reaches.rounds (he : e.Reaches f) (hf : Takes f) :
    (e.repetition 1 none true).Reaches (roundsLengths f) := by
  intro prog hay base next h t stack r ht hr
  have hcode : (e.repetition 1 none true).code base next =
      e.code base (base + e.codeSize) ++ [.split base next] := by
    simp [code, Instr.choice]
  rw [hcode] at h
  obtain ⟨hbody, hchoice⟩ := h.append
  rw [length_code] at hchoice
  induction hn : (ahead hay t.place).length using Nat.strongRecOn generalizing t stack r with
  | ind _ ih =>
    apply he hbody ht
    rw [roundsLengths, List.map_flatMap] at hr
    refine hr.expand fun n hmem stack r hn' => ?_
    have htakes := hf _ n hmem
    rw [if_pos htakes] at hn'
    refine .step hchoice.head nofun ?_
    apply ih _ ?_ (t := t.moved base n) rfl ?_ rfl
    · show (ahead hay (t.place + n)).length < _
      rw [ahead_add, List.length_drop]
      omega
    · show Runs prog hay ((roundsLengths f (ahead hay (t.place + n))).map _ ++ _) r
      have hmoved : (t.moved next ∘ fun m => n + m) = (t.moved base n).moved next := by
        funext m
        exact (t.moved_moved base next n m).symm
      rw [List.map_append, List.map_map, hmoved, List.append_assoc] at hn'
      rw [ahead_add]
      exact hn'

theorem holdsAt_program (e : Expr) : e.program.HoldsAt 0 (e.code 0 e.codeSize) ∧
    e.program[e.codeSize]? = some .accept := by
  have hprogram : e.program.HoldsAt 0 (e.code 0 e.codeSize ++ [.accept]) := by
    intro k i hk
    rw [program, Nat.zero_add, List.getElem?_toArray, hk]
  obtain ⟨hcode, haccept⟩ := hprogram.append
  rw [length_code, Nat.zero_add] at haccept
  exact ⟨hcode, haccept.head⟩

end Expr

/-- A search for such an expression tries the places in order, and takes the first length at the
first place that has one. -/
theorem search_of_reaches {e : Expr} {f : List Char → List Nat} (he : e.Reaches f) {start : Nat}
    (hstart : start ≤ hay.size + 1) :
    search e.program hay start = (List.range' start (hay.size + 1 - start)).findSome? fun place =>
      (f (ahead hay place)).head?.map fun n => ⟨⟨place, place + n⟩, none⟩ := by
  obtain ⟨hcode, haccept⟩ := e.holdsAt_program
  have hrun (place : Nat) (_ : place ≤ hay.size) : Runs e.program hay [⟨0, place, 0, none⟩]
      ((f (ahead hay place)).head?.map (Thread.moved ⟨0, place, 0, none⟩ e.codeSize)) := by
    apply he hcode rfl
    show Runs e.program hay ((f (ahead hay place)).map _ ++ []) _
    cases f (ahead hay place) with
    | nil => exact ⟨0, .empty⟩
    | cons n l => exact ⟨0, .accept haccept⟩
  rw [search_of_halts hrun hstart]
  congr 1
  funext place
  rw [matchOf, Option.map_map]
  rfl

end RollCall.Regex
