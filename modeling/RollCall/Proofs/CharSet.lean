import Mathlib.Tactic.Tauto
import RollCall.CharSet

/-! Sets of characters as sets: every operation gives intervals in ascending order that neither meet
nor touch, and a character is in the result by the law of the operation. -/
namespace RollCall.CharSet

def Covers (l : List Interval) (code : Nat) : Prop := ∃ i ∈ l, i.first ≤ code ∧ code ≤ i.last

def Proper (l : List Interval) : Prop := ∀ i ∈ l, i.first ≤ i.last

/-- Proper intervals in ascending order that neither meet nor touch. -/
structure Separated (l : List Interval) : Prop where
  proper : Proper l
  apart : l.Pairwise fun i j => i.last + 1 < j.first

def Normal (s : CharSet) : Prop := Separated s.intervals

variable {s t : CharSet} {i : Interval} {l : List Interval} {code start : Nat} {c : Char}

section Intervals

theorem covers_cons : Covers (i :: l) code ↔ (i.first ≤ code ∧ code ≤ i.last) ∨ Covers l code := by
  simp [Covers]

theorem covers_nil : ¬ Covers [] code := by
  simp [Covers]

theorem Separated.cons (hi : i.first ≤ i.last) (hl : Separated l)
    (h : ∀ j ∈ l, i.last + 1 < j.first) : Separated (i :: l) :=
  ⟨List.forall_mem_cons.mpr ⟨hi, hl.proper⟩, List.pairwise_cons.mpr ⟨h, hl.apart⟩⟩

theorem Separated.of_cons (h : Separated (i :: l)) :
    i.first ≤ i.last ∧ Separated l ∧ ∀ j ∈ l, i.last + 1 < j.first :=
  ⟨(List.forall_mem_cons.mp h.proper).1,
    ⟨(List.forall_mem_cons.mp h.proper).2, (List.pairwise_cons.mp h.apart).2⟩,
    (List.pairwise_cons.mp h.apart).1⟩

/-- The search finds the interval that holds the code point. -/
theorem holds_iff (h : Separated l) : holds code l = true ↔ Covers l code := by
  induction l with
  | nil => exact iff_of_false Bool.false_ne_true covers_nil
  | cons i l ih =>
    obtain ⟨hi, hl, happart⟩ := h.of_cons
    rw [holds, covers_cons]
    split
    · -- All further intervals are beyond the code point as well.
      refine iff_of_false Bool.false_ne_true ?_
      rintro (hin | ⟨j, hj, hin⟩)
      · omega
      · have := happart j hj
        omega
    · split
      · exact iff_of_true rfl (Or.inl (by omega))
      · rw [ih hl]
        exact ⟨Or.inr, fun h => h.resolve_left (by omega)⟩

/-- Merging keeps the order, the least code point and what is covered. -/
theorem merge_spec (hproper : Proper (i :: l)) (hsorted : (i :: l).Pairwise (·.first ≤ ·.first)) :
    Separated (merge i l) ∧ (∀ j ∈ merge i l, i.first ≤ j.first) ∧
      ∀ code, Covers (merge i l) code ↔ Covers (i :: l) code := by
  induction l generalizing i with
  | nil =>
    obtain ⟨hi, -⟩ := List.forall_mem_cons.mp hproper
    refine ⟨.cons hi ⟨nofun, .nil⟩ nofun, fun j hj => ?_, fun _ => Iff.rfl⟩
    obtain rfl := List.mem_singleton.mp hj
    exact Nat.le_refl _
  | cons j rest ih =>
    obtain ⟨hi, hjrest⟩ := List.forall_mem_cons.mp hproper
    obtain ⟨hj, hrest⟩ := List.forall_mem_cons.mp hjrest
    obtain ⟨hfirst, hsorted'⟩ := List.pairwise_cons.mp hsorted
    obtain ⟨hij, hirest⟩ := List.forall_mem_cons.mp hfirst
    rw [merge]
    split
    · next hmeets =>
      obtain ⟨hsep, hleast, hcovers⟩ := @ih ⟨i.first, max i.last j.last⟩
        (List.forall_mem_cons.mpr ⟨by dsimp only; omega, hrest⟩)
        (List.pairwise_cons.mpr ⟨hirest, (List.pairwise_cons.mp hsorted').2⟩)
      refine ⟨hsep, hleast, fun code => ?_⟩
      rw [hcovers, covers_cons, covers_cons, covers_cons, ← or_assoc]
      refine or_congr_left ?_
      dsimp only
      omega
    · next hapart =>
      obtain ⟨hsep, hleast, hcovers⟩ := ih hjrest hsorted'
      refine ⟨hsep.cons hi fun k hk => ?_, List.forall_mem_cons.mpr ⟨Nat.le_refl _, ?_⟩, ?_⟩
      · have := hleast k hk
        omega
      · exact fun k hk => Nat.le_trans hij (hleast k hk)
      · intro code
        rw [covers_cons, covers_cons, hcovers]

private theorem pairwise_sort (l : List Interval) :
    (l.mergeSort fun i j => i.first ≤ j.first).Pairwise (·.first ≤ ·.first) := by
  have h := @List.pairwise_mergeSort Interval (fun i j => i.first ≤ j.first)
    (fun i j k hij hjk => by simp only [decide_eq_true_eq] at *; omega)
    (fun i j => by simp only [Bool.or_eq_true, decide_eq_true_eq]; omega) l
  exact h.imp of_decide_eq_true

theorem ofIntervals_spec (h : Proper l) :
    (ofIntervals l).Normal ∧ ∀ code, Covers (ofIntervals l).intervals code ↔ Covers l code := by
  have hsorted := pairwise_sort l
  have hmem (i : Interval) : i ∈ l.mergeSort (fun i j => i.first ≤ j.first) ↔ i ∈ l :=
    List.mem_mergeSort
  have hproper : Proper (l.mergeSort fun i j => i.first ≤ j.first) :=
    fun i hi => h i ((hmem i).mp hi)
  have hcovers (code : Nat) :
      Covers l code ↔ Covers (l.mergeSort fun i j => i.first ≤ j.first) code := by
    simp only [Covers, hmem]
  simp only [hcovers]
  unfold ofIntervals
  cases hsort : l.mergeSort fun i j => i.first ≤ j.first with
  | nil => exact ⟨⟨nofun, .nil⟩, fun _ => Iff.rfl⟩
  | cons i rest =>
    rw [hsort] at hproper hsorted
    obtain ⟨hsep, -, hmerged⟩ := merge_spec hproper hsorted
    exact ⟨hsep, hmerged⟩

/-- The gaps hold the code points that the intervals leave free. -/
theorem gaps_spec (h : Separated l) (hstart : ∀ i ∈ l, start ≤ i.first) :
    Separated (gaps start l) ∧ (∀ j ∈ gaps start l, start ≤ j.first) ∧
      ∀ code ≤ maxCode, Covers (gaps start l) code ↔ start ≤ code ∧ ¬ Covers l code := by
  induction l generalizing start with
  | nil =>
    rw [gaps]
    split
    · refine ⟨.cons (by assumption) ⟨nofun, .nil⟩ nofun, fun j hj => ?_, fun code hcode => ?_⟩
      · obtain rfl := List.mem_singleton.mp hj
        exact Nat.le_refl _
      · rw [covers_cons]
        simp [covers_nil, hcode]
    · refine ⟨⟨nofun, .nil⟩, nofun, fun code hcode => ?_⟩
      simp only [covers_nil, not_false_iff, and_true, false_iff]
      omega
  | cons i l ih =>
    obtain ⟨hi, hl, hapart⟩ := h.of_cons
    obtain ⟨hstarti, -⟩ := List.forall_mem_cons.mp hstart
    obtain ⟨hsep, hleast, hcovers⟩ :=
      @ih (i.last + 1) hl fun j hj => Nat.le_of_lt (hapart j hj)
    have hbeyond (code : Nat) (hcode : code ≤ i.last) : ¬ Covers l code := by
      rintro ⟨j, hj, hin⟩
      have := hapart j hj
      omega
    rw [gaps]
    split
    · next hgap =>
      refine ⟨hsep.cons (by dsimp only; omega) fun j hj => ?_, ?_, fun code hcode => ?_⟩
      · have := hleast j hj
        dsimp only
        omega
      · refine List.forall_mem_cons.mpr ⟨Nat.le_refl _, fun j hj => ?_⟩
        have := hleast j hj
        omega
      · have := hbeyond code
        rw [covers_cons, covers_cons, hcovers code hcode]
        dsimp only
        grind
    · next hgap =>
      refine ⟨hsep, fun j hj => ?_, fun code hcode => ?_⟩
      · have := hleast j hj
        omega
      · have := hbeyond code
        rw [covers_cons, hcovers code hcode]
        grind

end Intervals

section Operations

theorem contains_iff (h : s.Normal) : s.contains c = true ↔ Covers s.intervals c.toNat := holds_iff h

theorem toNat_le_maxCode (c : Char) : c.toNat ≤ maxCode := by
  have h : c.toNat < 0xD800 ∨ 0xDFFF < c.toNat ∧ c.toNat < 0x110000 := c.valid
  unfold maxCode
  omega

theorem not_covers_surrogates (c : Char) : ¬ Covers [surrogates] c.toNat := by
  have h : c.toNat < 0xD800 ∨ 0xDFFF < c.toNat ∧ c.toNat < 0x110000 := c.valid
  rw [covers_cons]
  simp only [covers_nil, or_false, surrogates]
  omega

theorem contains_ofIntervals (h : Proper l) :
    (ofIntervals l).contains c = true ↔ Covers l c.toNat := by
  obtain ⟨hnormal, hcovers⟩ := ofIntervals_spec h
  rw [contains_iff hnormal, hcovers]

theorem complement_spec (h : s.Normal) :
    s.complement.Normal ∧ ∀ c, s.complement.contains c = true ↔ ¬ s.contains c = true := by
  have hproper : Proper (surrogates :: s.intervals) :=
    List.forall_mem_cons.mpr ⟨by decide, h.proper⟩
  obtain ⟨hnormal, hcovers⟩ := ofIntervals_spec hproper
  obtain ⟨hgaps, -, hfree⟩ := gaps_spec hnormal fun _ _ => Nat.zero_le _
  have hcomplement : s.complement.Normal := hgaps
  refine ⟨hcomplement, fun c => ?_⟩
  rw [contains_iff hcomplement, contains_iff h]
  refine (hfree c.toNat (toNat_le_maxCode c)).trans ?_
  have hsurrogate := not_covers_surrogates c
  rw [covers_cons] at hsurrogate
  rw [hcovers, covers_cons]
  simp only [covers_nil, or_false] at hsurrogate
  simp [hsurrogate]

theorem union_spec (hs : s.Normal) (ht : t.Normal) :
    (s.union t).Normal ∧
      ∀ c, (s.union t).contains c = true ↔ s.contains c = true ∨ t.contains c = true := by
  have hproper : Proper (s.intervals ++ t.intervals) :=
    fun i hi => (List.mem_append.mp hi).elim (hs.proper i) (ht.proper i)
  refine ⟨(ofIntervals_spec hproper).1, fun c => ?_⟩
  rw [union, contains_ofIntervals hproper, contains_iff hs, contains_iff ht]
  simp only [Covers, List.mem_append, or_and_right, exists_or]

theorem intersection_spec (hs : s.Normal) (ht : t.Normal) :
    (s.intersection t).Normal ∧
      ∀ c, (s.intersection t).contains c = true ↔ s.contains c = true ∧ t.contains c = true := by
  obtain ⟨hs', hsc⟩ := complement_spec hs
  obtain ⟨ht', htc⟩ := complement_spec ht
  obtain ⟨hu, huc⟩ := union_spec hs' ht'
  obtain ⟨hnormal, hc⟩ := complement_spec hu
  refine ⟨hnormal, fun c => ?_⟩
  rw [intersection, hc, huc, hsc, htc]
  tauto

theorem difference_spec (hs : s.Normal) (ht : t.Normal) :
    (s.difference t).Normal ∧
      ∀ c, (s.difference t).contains c = true ↔ s.contains c = true ∧ ¬ t.contains c = true := by
  obtain ⟨ht', htc⟩ := complement_spec ht
  obtain ⟨hnormal, hc⟩ := intersection_spec hs ht'
  exact ⟨hnormal, fun c => by rw [difference, hc, htc]⟩

end Operations

end RollCall.CharSet
