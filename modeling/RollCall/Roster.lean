/-! Sets of identifiers, kept in ascending order of code points, which is also the order of their
bytes. Equal sets are equal values. -/
namespace RollCall

/-- Leaves out elements equal to the one before them. -/
def dropRepeats : List String → List String
  | [] => []
  | [a] => [a]
  | a :: b :: rest => if a = b then dropRepeats (b :: rest) else a :: dropRepeats (b :: rest)

theorem mem_dropRepeats {x : String} (l : List String) : x ∈ dropRepeats l ↔ x ∈ l := by
  induction l using dropRepeats.induct with
  | case1 => rfl
  | case2 a => rfl
  | case3 a rest ih => simp [dropRepeats, ih]
  | case4 a b rest hab ih => simp [dropRepeats, hab, ih]

theorem pairwise_dropRepeats {l : List String} (h : l.Pairwise (· ≤ ·)) :
    (dropRepeats l).Pairwise (· < ·) := by
  induction l using dropRepeats.induct with
  | case1 => exact .nil
  | case2 a => exact .cons (by simp) .nil
  | case3 a rest ih => simpa [dropRepeats] using ih (List.pairwise_cons.1 h).2
  | case4 a b rest hab ih =>
    obtain ⟨ha, hb⟩ := List.pairwise_cons.1 h
    obtain ⟨hbr, _⟩ := List.pairwise_cons.1 hb
    simp only [dropRepeats, hab, if_false]
    refine .cons (fun c hc => ?_) (ih hb)
    have hlt : a < b :=
      String.not_le.1 fun hba => hab (String.le_antisymm (ha b (by simp)) hba)
    rcases List.mem_cons.1 ((mem_dropRepeats _).1 hc) with rfl | hc
    · exact hlt
    · exact String.not_le.1 fun hca =>
        hab (String.le_antisymm (ha b (by simp)) (String.le_trans (hbr c hc) hca))

/-- A set of identifiers. -/
structure Roster where
  names : List String
  ascending : names.Pairwise (· < ·)
deriving DecidableEq

namespace Roster

instance : Inhabited Roster := ⟨⟨[], .nil⟩⟩

def ofList (l : List String) : Roster where
  names := dropRepeats (l.mergeSort (· ≤ ·))
  ascending := pairwise_dropRepeats <| by
    have htrans (a b c : String) (hab : decide (a ≤ b)) (hbc : decide (b ≤ c)) :
        decide (a ≤ c) := by
      simp only [decide_eq_true_eq] at *
      exact String.le_trans hab hbc
    have htotal (a b : String) : (decide (a ≤ b) || decide (b ≤ a)) = true := by
      simpa using String.le_total a b
    simpa using List.pairwise_mergeSort htrans htotal l

def isEmpty (r : Roster) : Bool := r.names.isEmpty

/-- Elements of the first list that the second lacks, if both are ascending. -/
def subtract : List String → List String → List String
  | [], _ => []
  | as, [] => as
  | a :: as, b :: bs =>
    if a < b then a :: subtract as (b :: bs)
    else if a = b then subtract as bs
    else subtract (a :: as) bs
termination_by as bs => as.length + bs.length

theorem subtract_sublist (as bs : List String) : (subtract as bs).Sublist as := by
  fun_induction subtract as bs with
  | case1 => exact .refl _
  | case2 => exact .refl _
  | case3 a as b bs h ih => exact ih.cons_cons a
  | case4 as b bs h ih => exact ih.cons b
  | case5 a as b bs h hab ih => exact ih

def difference (r s : Roster) : Roster where
  names := subtract r.names s.names
  ascending := r.ascending.sublist (subtract_sublist _ _)

end Roster

end RollCall
