import Mathlib.Data.List.Sort
import Mathlib.Data.String.Basic
import RollCall.Comparison

/-! Rosters as sets: a roster is told by its members, and the operations on rosters are those on
sets. -/
namespace RollCall
namespace Roster

instance : Membership String Roster := ⟨fun r x => x ∈ r.names⟩

theorem mem_def {x : String} {r : Roster} : x ∈ r ↔ x ∈ r.names := Iff.rfl

theorem ext_mem {r s : Roster} (h : ∀ x, x ∈ r ↔ x ∈ s) : r = s := by
  have hnames : r.names = s.names := r.ascending.eq_of_mem_iff s.ascending @h
  cases r
  cases s
  congr

@[simp] theorem mem_ofList {x : String} {l : List String} : x ∈ ofList l ↔ x ∈ l := by
  rw [mem_def, ofList, mem_dropRepeats, List.mem_mergeSort]

/-- An ascending list is all of its roster. -/
@[simp] theorem ofList_names (r : Roster) : ofList r.names = r := ext_mem fun _ => mem_ofList

theorem isEmpty_iff {r : Roster} : r.isEmpty = true ↔ r.names = [] := List.isEmpty_iff

theorem mem_subtract {x : String} {as bs : List String} (ha : as.Pairwise (· < ·))
    (hb : bs.Pairwise (· < ·)) : x ∈ subtract as bs ↔ x ∈ as ∧ x ∉ bs := by
  fun_induction subtract as bs with
  | case1 bs => simp
  | case2 as => simp
  | case3 a as b bs hab ih =>
    have hlt : ∀ y ∈ b :: bs, a < y := by
      intro y hy
      rcases List.mem_cons.mp hy with rfl | hy
      · exact hab
      · exact String.lt_trans hab ((List.pairwise_cons.mp hb).1 y hy)
    have ha' : a ∉ b :: bs := fun h => String.lt_irrefl a (hlt a h)
    rw [List.mem_cons, List.mem_cons, ih (List.pairwise_cons.mp ha).2 hb]
    grind
  | case4 as b bs hb' ih =>
    have hb'' : b ∉ as := fun h => String.lt_irrefl b ((List.pairwise_cons.mp ha).1 b h)
    rw [ih (List.pairwise_cons.mp ha).2 (List.pairwise_cons.mp hb).2]
    grind
  | case5 a as b bs hab hne ih =>
    have hba : b < a := lt_of_le_of_ne (not_lt.mp hab) (Ne.symm hne)
    have hb' : b ∉ a :: as := by
      intro h
      rcases List.mem_cons.mp h with rfl | h
      · exact hne rfl
      · exact String.lt_asymm hba ((List.pairwise_cons.mp ha).1 b h)
    rw [ih ha (List.pairwise_cons.mp hb).2]
    grind

@[simp] theorem mem_difference {x : String} {r s : Roster} :
    x ∈ r.difference s ↔ x ∈ r ∧ x ∉ s := mem_subtract r.ascending s.ascending

theorem difference_isEmpty_iff {r s : Roster} :
    (r.difference s).isEmpty = true ↔ ∀ x ∈ r, x ∈ s := by
  rw [isEmpty_iff, List.eq_nil_iff_forall_not_mem]
  change (∀ x, ¬ x ∈ r.difference s) ↔ _
  simp

end Roster

namespace Comparison

/-- Two equal sets are two that lack nothing of each other. -/
theorem isMatch_of_iff {r s : Roster} : (of r s).isMatch = true ↔ r = s := by
  simp only [isMatch, of, Bool.and_eq_true, Roster.difference_isEmpty_iff]
  constructor
  · intro ⟨hrs, hsr⟩
    exact Roster.ext_mem fun x => ⟨hrs x, hsr x⟩
  · rintro rfl
    exact ⟨fun _ h => h, fun _ h => h⟩

theorem agrees_eq_isMatch (r s : Roster) : r.agrees s = (of r s).isMatch := by
  rw [Bool.eq_iff_iff, isMatch_of_iff]
  simp [Roster.agrees]

end Comparison

end RollCall
