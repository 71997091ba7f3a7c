import RollCall.Proofs.CharSet
import RollCall.Unicode.Query

/-! The tables as sets: a union of categories holds what one of them holds, and every control
character is among those that are not printed. -/
namespace RollCall.Unicode

open CharSet

theorem first_le_last_readInterval (item : List Char) :
    (readInterval item).first ≤ (readInterval item).last := by
  unfold readInterval
  dsimp only
  cases item.dropWhile (· ≠ '-') with
  | nil => exact Nat.le_refl _
  | cons c rest =>
    dsimp only
    omega

theorem proper_tables (tables : List NamedSet) : Proper (tables.flatMap (·.set.intervals)) := by
  intro i hi
  obtain ⟨s, -, hi⟩ := List.mem_flatMap.mp hi
  obtain ⟨line, -, hi⟩ := List.mem_flatMap.mp hi
  obtain ⟨item, -, rfl⟩ := List.mem_map.mp hi
  exact first_le_last_readInterval item

theorem normal_categoryUnion (names : List String) : (categoryUnion names).Normal :=
  (ofIntervals_spec (proper_tables _)).1

theorem contains_categoryUnion {names : List String} {c : Char} :
    (categoryUnion names).contains c = true ↔
      ∃ s ∈ categories, s.names.any names.contains = true ∧ Covers s.set.intervals c.toNat := by
  rw [categoryUnion, contains_ofIntervals (proper_tables _)]
  simp only [Covers, List.mem_flatMap, List.mem_filter]
  constructor
  · rintro ⟨i, ⟨s, ⟨hs, hnames⟩, hi⟩, hin⟩
    exact ⟨s, hs, hnames, i, hi, hin⟩
  · rintro ⟨s, hs, hnames, i, hi, hin⟩
    exact ⟨i, ⟨s, ⟨hs, hnames⟩, hi⟩, hin⟩

theorem normal_unassigned : unassigned.Normal :=
  (complement_spec (ofIntervals_spec (proper_tables categories)).1).1

theorem contains_unprintable {c : Char} :
    unprintable.contains c = true ↔ (unassigned.contains c = true ∨
      (categoryUnion ["cc", "cf", "co", "zl", "zp", "zs"]).contains c = true) ∧ c ≠ ' ' := by
  have hblank : (CharSet.singleton ' ').Normal :=
    .cons (Nat.le_refl _) ⟨nofun, .nil⟩ nofun
  obtain ⟨hunion, hcontains⟩ := union_spec normal_unassigned
    (normal_categoryUnion ["cc", "cf", "co", "zl", "zp", "zs"])
  rw [unprintable, (difference_spec hunion hblank).2, hcontains, contains_iff hblank,
    CharSet.singleton, covers_cons]
  simp only [covers_nil, or_false, ← Nat.le_antisymm_iff, Char.toNat_inj, ne_eq, eq_comm]

/-- Control characters below the blank are not printed. -/
theorem unprintable_of_control {c : Char} (h : c.toNat < 0x20) : unprintable.contains c = true := by
  rw [contains_unprintable, contains_categoryUnion]
  refine ⟨Or.inr ⟨⟨["cc", "control", "cntrl"], ["0-1f 7f-9f"]⟩, ?_, by decide, ?_⟩, ?_⟩
  · exact List.mem_of_getElem? (i := 25) rfl
  · exact ⟨⟨0, 0x1F⟩, by decide, Nat.zero_le _, Nat.le_of_lt_succ h⟩
  · rintro rfl
    exact absurd h (by decide)

end RollCall.Unicode
