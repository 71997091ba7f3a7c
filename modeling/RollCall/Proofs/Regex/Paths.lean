import Mathlib.Tactic.Ring
import RollCall.Proofs.Regex.Code

/-! Ways through a program that end in acceptance, and the places at which the code of a repetition
stands. -/
namespace RollCall.Regex

variable {prog : Program} {hay : Array Char} {t u v : Thread} {n base next : Nat} {i : Instr}

section Paths

/-- From this way the machine can come to the accepting way `v` in `n` steps, if it chooses well. -/
inductive Accepts (prog : Program) (hay : Array Char) : (n : Nat) → (t v : Thread) → Prop
  | accept {t : Thread} (h : prog[t.address]? = some .accept) : Accepts prog hay 0 t t
  | step {n : Nat} {t u v : Thread} {i : Instr} (h : prog[t.address]? = some i)
      (hu : u ∈ t.after hay i) (hr : Accepts prog hay n u v) : Accepts prog hay (n + 1) t v

theorem Accepts.of_instr (h : Accepts prog hay n t v) (ht : t.address = base)
    (hi : prog[base]? = some i) (hne : i ≠ .accept) :
    ∃ m u, n = m + 1 ∧ u ∈ t.after hay i ∧ Accepts prog hay m u v := by
  subst ht
  cases h with
  | accept h => exact absurd (Option.some.inj (hi.symm.trans h)) hne
  | step h hu hr =>
    obtain rfl := Option.some.inj (h.symm.trans hi)
    exact ⟨_, _, rfl, hu, hr⟩

theorem mem_after_choice {greedy : Bool} {inner outer : Nat} :
    u ∈ t.after hay (.choice greedy inner outer) ↔
      u = { t with address := inner } ∨ u = { t with address := outer } := by
  cases greedy with
  | true => simp [Instr.choice, Thread.after]
  | false =>
    simp only [Instr.choice, Thread.after, Bool.false_eq_true, if_false, List.mem_cons,
      List.not_mem_nil, or_false]
    exact or_comm

theorem choice_ne_accept (greedy : Bool) (inner outer : Nat) :
    Instr.choice greedy inner outer ≠ .accept := by
  cases greedy <;> exact nofun

/-- A way at this address and place is accepted somewhere, whatever it has captured. -/
def Succeeds (prog : Program) (hay : Array Char) (address place : Nat) : Prop :=
  ∀ t : Thread, t.address = address → t.place = place → ∃ n v, Accepts prog hay n t v

/-- One step takes a way to where it succeeds. -/
theorem Succeeds.step {address place : Nat} (h : prog[address]? = some i)
    (hafter : ∀ t : Thread, t.address = address → t.place = place →
      ∃ u ∈ t.after hay i, Succeeds prog hay u.address u.place) :
    Succeeds prog hay address place := by
  intro t ht hplace
  obtain ⟨u, hu, hsucceeds⟩ := hafter t ht hplace
  obtain ⟨n, v, hv⟩ := hsucceeds u rfl rfl
  exact ⟨n + 1, v, .step (ht ▸ h) hu hv⟩

end Paths

/-- Pieces of code of the same size, one after the other, stand where they are expected. -/
theorem Program.HoldsAt.of_flatMap_range {f : Nat → List Instr} (size : Nat) {k : Nat}
    (hlength : ∀ j, (f j).length = size) (h : prog.HoldsAt base ((List.range k).flatMap f)) :
    ∀ j < k, prog.HoldsAt (base + j * size) (f j) := by
  induction k with
  | zero => exact nofun
  | succ k ih =>
    rw [List.range_succ, List.flatMap_append, List.flatMap_singleton] at h
    obtain ⟨hbefore, hlast⟩ := h.append
    have hsum : ((List.range k).flatMap f).length = k * size := by
      simp [List.length_flatMap, hlength]
    rw [hsum] at hlast
    intro j hj
    rcases Nat.lt_succ_iff_lt_or_eq.mp hj with hj | rfl
    · exact ih hbefore j hj
    · exact hlast

namespace Expr

variable {e : Expr} {outer : Nat}

section Layout

variable {body : Expr} {min max : Nat} {greedy : Bool}

/-- Copies of a body, each of which leads to the next. -/
theorem holdsAt_copies {k : Nat} (h : prog.HoldsAt base ((List.range k).flatMap fun j =>
      body.code (base + j * body.codeSize) (base + (j + 1) * body.codeSize))) :
    ∀ j < k, prog.HoldsAt (base + j * body.codeSize)
      (body.code (base + j * body.codeSize) (base + (j + 1) * body.codeSize)) :=
  h.of_flatMap_range body.codeSize fun _ => length_code body _ _

theorem length_copies (base k : Nat) : ((List.range k).flatMap fun j =>
    body.code (base + j * body.codeSize) (base + (j + 1) * body.codeSize)).length =
      k * body.codeSize := by
  simp [List.length_flatMap, length_code]

theorem holdsAt_bounded
    (h : prog.HoldsAt base ((body.repetition min (some max) greedy).code base next)) :
    (∀ j < min, prog.HoldsAt (base + j * body.codeSize)
      (body.code (base + j * body.codeSize) (base + (j + 1) * body.codeSize))) ∧
    (∀ j < max - min,
      let start := base + min * body.codeSize + j * (body.codeSize + 1)
      prog[start]? = some (.choice greedy (start + 1) next) ∧
      prog.HoldsAt (start + 1) (body.code (start + 1)
        (base + min * body.codeSize + (j + 1) * (body.codeSize + 1)))) ∧
    prog[base + min * body.codeSize + (max - min) * (body.codeSize + 1)]? = some (.jump next) := by
  obtain ⟨hcode, hjump⟩ := h.append
  obtain ⟨hcopies, hoptions⟩ := hcode.append
  rw [List.length_append, length_copies, ← Nat.add_assoc] at hjump
  rw [length_copies] at hoptions
  refine ⟨holdsAt_copies hcopies, fun j hj => ?_, ?_⟩
  · have hoption := hoptions.of_flatMap_range (body.codeSize + 1)
      (fun _ => by simp [length_code]) j hj
    refine ⟨hoption.head, ?_⟩
    have hnext : base + min * body.codeSize + (j + 1) * (body.codeSize + 1) =
        base + min * body.codeSize + j * (body.codeSize + 1) + body.codeSize + 1 := by ring
    rw [hnext]
    exact hoption.tail
  · have hlength : ((List.range (max - min)).flatMap fun k =>
        let start := base + min * body.codeSize + k * (body.codeSize + 1)
        Instr.choice greedy (start + 1) next ::
          body.code (start + 1) (start + body.codeSize + 1)).length =
        (max - min) * (body.codeSize + 1) := by
      simp [List.length_flatMap, length_code]
    rw [hlength] at hjump
    exact hjump.head

theorem holdsAt_unbounded
    (h : prog.HoldsAt base ((body.repetition (min + 1) none greedy).code base next)) :
    (∀ j < min + 1, prog.HoldsAt (base + j * body.codeSize)
      (body.code (base + j * body.codeSize) (base + (j + 1) * body.codeSize))) ∧
    prog[base + (min + 1) * body.codeSize]? =
      some (.choice greedy (base + min * body.codeSize) next) := by
  obtain ⟨hcopies, hchoice⟩ := h.append
  rw [length_copies] at hchoice
  exact ⟨holdsAt_copies hcopies, hchoice.head⟩

theorem holdsAt_star_of_consumes (hconsumes : body.consumes = true)
    (h : prog.HoldsAt base ((body.repetition 0 none greedy).code base next)) :
    prog[base]? = some (.choice greedy (base + 1) next) ∧
      prog.HoldsAt (base + 1) (body.code (base + 1) base) := by
  rw [code, if_pos hconsumes] at h
  exact ⟨h.head, h.tail⟩

theorem holdsAt_star (hconsumes : ¬ body.consumes = true)
    (h : prog.HoldsAt base ((body.repetition 0 none greedy).code base next)) :
    prog[base]? = some (.choice greedy (base + 1) next) ∧
      prog.HoldsAt (base + 1) (body.code (base + 1) (base + body.codeSize + 1)) ∧
      prog[base + body.codeSize + 1]? = some (.choice greedy (base + 1) next) := by
  rw [code, if_neg hconsumes] at h
  obtain ⟨hcode, hchoice⟩ := h.tail.append
  rw [length_code, Nat.add_right_comm] at hchoice
  exact ⟨h.head, hcode, hchoice.head⟩

end Layout

end Expr

end RollCall.Regex
