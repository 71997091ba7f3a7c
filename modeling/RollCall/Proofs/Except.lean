import Mathlib.Logic.Basic

/-! Computations that may fail, opened where they succeed. -/
namespace RollCall

theorem bind_ok {ε α β : Type} {x : Except ε α} {f : α → Except ε β} {b : β} :
    x.bind f = .ok b ↔ ∃ a, x = .ok a ∧ f a = .ok b := by
  cases x with
  | error e => exact iff_of_false nofun fun ⟨_, h, _⟩ => nomatch h
  | ok a =>
    constructor
    · exact fun h => ⟨a, rfl, h⟩
    · rintro ⟨a', ha, h⟩
      exact Except.ok.inj ha ▸ h

theorem map_ok {ε α β : Type} {x : Except ε α} {f : α → β} {b : β} :
    x.map f = .ok b ↔ ∃ a, x = .ok a ∧ f a = b := by
  cases x with
  | error e => exact iff_of_false nofun fun ⟨_, h, _⟩ => nomatch h
  | ok a =>
    constructor
    · exact fun h => ⟨a, rfl, Except.ok.inj h⟩
    · rintro ⟨a', ha, rfl⟩
      exact Except.ok.inj ha ▸ rfl

/-- Where a computation succeeds and with what. -/
theorem eq_ok_iff {ε α : Type} {x : Except ε α} {p : Prop} {a b : α} (hok : p → x = .ok a)
    (hp : x = .ok b → p) : x = .ok b ↔ p ∧ b = a := by
  constructor
  · intro h
    have hb : p := hp h
    rw [hok hb] at h
    exact ⟨hb, (Except.ok.inj h).symm⟩
  · rintro ⟨h, rfl⟩
    exact hok h

theorem map_eq_ok_iff {ε α β : Type} {x : Except ε α} {p : Prop} {a : α} {f : α → β} {b : β}
    (h : ∀ a', x = .ok a' ↔ p ∧ a' = a) : x.map f = .ok b ↔ p ∧ b = f a := by
  simp only [map_ok, h]
  constructor
  · rintro ⟨_, ⟨hp, rfl⟩, rfl⟩
    exact ⟨hp, rfl⟩
  · rintro ⟨hp, rfl⟩
    exact ⟨a, ⟨hp, rfl⟩, rfl⟩

theorem bind_eq_ok_iff {ε α β : Type} {x : Except ε α} {p : Prop} {a : α} {f : α → Except ε β}
    {b : β} (h : ∀ a', x = .ok a' ↔ p ∧ a' = a) : x.bind f = .ok b ↔ p ∧ f a = .ok b := by
  simp only [bind_ok, h]
  constructor
  · rintro ⟨_, ⟨hp, rfl⟩, hf⟩
    exact ⟨hp, hf⟩
  · rintro ⟨hp, hf⟩
    exact ⟨a, ⟨hp, rfl⟩, hf⟩

/-- Behind a check that fails on a condition, the condition does not hold. -/
theorem ok_of_check {ε α β : Type} {c : Prop} [Decidable c] {e : ε} {f : β → Except ε α}
    {x : Except ε α} {a : α} (h : (if c then (Except.error e).bind f else x) = .ok a) :
    ¬ c ∧ x = .ok a := by
  by_cases hc : c
  · rw [if_pos hc] at h
    contradiction
  · rw [if_neg hc] at h
    exact ⟨hc, h⟩

theorem ok_of_toBool {ε α : Type} {x : Except ε α} (h : x.toBool = true) : ∃ a, x = .ok a := by
  cases x with
  | error e => contradiction
  | ok a => exact ⟨a, rfl⟩

end RollCall
