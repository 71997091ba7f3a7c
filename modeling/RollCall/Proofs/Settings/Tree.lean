import RollCall.Proofs.Except
import RollCall.Settings.Tree

/-! Putting values into a tree. An index that lies within what a list has room for leads somewhere
in every tree, and where nothing stands yet, no other index does. -/
namespace RollCall.Settings

section Entries

variable {κ α : Type} [DecidableEq κ] {key k : κ} {x : α} {table : List (κ × α)}

theorem lookup_filter_of_keep {keep : κ × α → Bool} (h : ∀ x, keep (k, x) = true)
    (table : List (κ × α)) : (table.filter keep).lookup k = table.lookup k := by
  induction table with
  | nil => rfl
  | cons e table ih =>
    obtain ⟨key, x⟩ := e
    by_cases he : k = key
    · subst he
      rw [List.filter_cons_of_pos (h x), List.lookup_cons, List.lookup_cons, beq_self_eq_true]
    · have hkey : (k == key) = false := beq_eq_false_iff_ne.mpr he
      rw [List.lookup_cons, hkey, List.filter_cons]
      split
      · rw [List.lookup_cons, hkey, ih]
      · exact ih

theorem lookup_setEntry (table : List (κ × α)) (key k : κ) (x : α) :
    (setEntry table key x).lookup k = if k = key then some x else table.lookup k := by
  rw [setEntry, List.lookup_append]
  split
  · next h =>
    have hnone : (table.filter (·.1 ≠ key)).lookup k = none :=
      List.lookup_eq_none_iff.mpr fun e he => by
        have hne : e.1 ≠ key := of_decide_eq_true (List.mem_filter.mp he).2
        simpa [h] using hne.symm
    rw [hnone, h]
    simp
  · next h =>
    rw [lookup_filter_of_keep fun _ => decide_eq_true h, List.lookup_cons,
      beq_eq_false_iff_ne.mpr h]
    simp

end Entries

/-- An index lies within the room for a list. -/
def Step.Fits (room : Nat) : Step → Prop
  | .key _ => True
  | .index i => 0 ≤ i ∧ i < room

instance (room : Nat) : DecidablePred (Step.Fits room)
  | .key _ => isTrue trivial
  | .index i => inferInstanceAs (Decidable (0 ≤ i ∧ i < room))

/-- What comes of an index that does not. -/
def crashAt (i : Int) : Crash :=
  if 0 ≤ i ∧ i.toNat < listLimit then .outOfMemory else .panic

namespace Tree

variable {room length : Nat} {old : Option Tree} {steps : List Step} {v : Scalar} {i : Int}

theorem position_of_fits (h : (Step.index i).Fits room) (length : Nat) :
    position room length i = .ok i.toNat := by
  rw [position, if_pos h.1, if_pos h.2]

theorem position_zero (h : ¬ (Step.index i).Fits room) :
    position room 0 i = .error (crashAt i) := by
  rw [position, crashAt]
  by_cases hi : 0 ≤ i
  · have hroom : ¬ i < room := fun hlt => h ⟨hi, hlt⟩
    rw [if_pos hi, if_neg hroom]
    by_cases hlimit : i.toNat < listLimit
    · rw [if_neg (Nat.not_le.mpr hlimit), if_pos ⟨hi, hlimit⟩]
    · rw [if_pos (Nat.not_lt.mp hlimit), if_neg fun h => hlimit h.2]
  · rw [if_neg hi, if_neg (by omega), if_neg fun h => hi h.1]

/-- Indices with room for them lead somewhere in every tree. -/
theorem exists_put_of_fits (h : ∀ step ∈ steps, step.Fits room) (old : Option Tree) (v : Scalar) :
    ∃ t, put room old steps v = .ok t := by
  induction steps generalizing old with
  | nil => exact ⟨_, rfl⟩
  | cons step steps ih =>
    have hrest := fun s hs => h s (List.mem_cons_of_mem _ hs)
    cases step with
    | key k =>
      obtain ⟨part, hpart⟩ := ih hrest ((entries old).lookup k)
      exact ⟨_, by rw [put, hpart]; rfl⟩
    | index i =>
      have hposition := position_of_fits (h _ List.mem_cons_self) (items old).1
      obtain ⟨part, hpart⟩ := ih hrest ((items old).2.lookup i.toNat)
      refine ⟨.list (max (items old).1 (i.toNat + 1)) (setEntry (items old).2 i.toNat part), ?_⟩
      simp only [put, hposition, bind, Except.bind, hpart]
      rfl

/-- Where nothing stands, the first index without room breaks the run off. -/
theorem exists_put_none_of_not_fits (h : ∃ step ∈ steps, ¬ step.Fits room) (v : Scalar) :
    ∃ i, .index i ∈ steps ∧ ¬ (Step.index i).Fits room ∧
      put room none steps v = .error (crashAt i) := by
  induction steps with
  | nil => simp at h
  | cons step steps ih =>
    have hmore (hstep : step.Fits room) : ∃ step ∈ steps, ¬ step.Fits room := by
      obtain ⟨other, hother, hbad⟩ := h
      rcases List.mem_cons.mp hother with rfl | hother
      · exact absurd hstep hbad
      · exact ⟨other, hother, hbad⟩
    cases step with
    | key k =>
      obtain ⟨i, hi, hbad, hput⟩ := ih (hmore trivial)
      refine ⟨i, List.mem_cons_of_mem _ hi, hbad, ?_⟩
      simp only [put, entries, List.lookup_nil, hput]
      rfl
    | index j =>
      by_cases hj : (Step.index j).Fits room
      · obtain ⟨i, hi, hbad, hput⟩ := ih (hmore hj)
        refine ⟨i, List.mem_cons_of_mem _ hi, hbad, ?_⟩
        simp only [put, items, position_of_fits hj, List.lookup_nil, bind, Except.bind, hput]
      · refine ⟨j, List.mem_cons_self, hj, ?_⟩
        simp only [put, items, position_zero hj]
        rfl

end Tree

end RollCall.Settings
