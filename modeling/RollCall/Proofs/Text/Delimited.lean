import Mathlib.Data.List.Basic

/-! Written forms that show where they end, so that a text begins with one of them in at most one
way, and pieces that are told apart by a character that is in none of them. -/
namespace RollCall

section Separators

variable {α : Type} {sep : α} {as bs xs ys : List α}

/-- What comes before the first separator, and what comes after it. -/
theorem append_cons_inj_of_first (ha : sep ∉ as) (hb : sep ∉ bs)
    (h : as ++ sep :: xs = bs ++ sep :: ys) : as = bs ∧ xs = ys := by
  induction as generalizing bs with
  | nil =>
    cases bs with
    | nil => exact ⟨rfl, (List.cons.inj h).2⟩
    | cons b bs => exact absurd (List.cons.inj h).1 fun e => hb (e ▸ List.mem_cons_self)
  | cons a as ih =>
    cases bs with
    | nil => exact absurd (List.cons.inj h).1 fun e => ha (e ▸ List.mem_cons_self)
    | cons b bs =>
      obtain ⟨rfl, hrest⟩ := List.cons.inj h
      obtain ⟨rfl, hxs⟩ := ih (fun hm => ha (List.mem_cons_of_mem a hm))
        (fun hm => hb (List.mem_cons_of_mem a hm)) hrest
      exact ⟨rfl, hxs⟩

/-- What comes before the last separator, and what comes after it. -/
theorem append_cons_inj_of_last (hx : sep ∉ xs) (hy : sep ∉ ys)
    (h : as ++ sep :: xs = bs ++ sep :: ys) : as = bs ∧ xs = ys := by
  have hrev : xs.reverse ++ sep :: as.reverse = ys.reverse ++ sep :: bs.reverse := by
    have := congrArg List.reverse h
    simpa using this
  obtain ⟨hxs, has⟩ := append_cons_inj_of_first (by simpa using hx) (by simpa using hy) hrev
  exact ⟨List.reverse_inj.mp has, List.reverse_inj.mp hxs⟩

end Separators

section Digits

theorem digitChar_inj : ∀ m < 16, ∀ n < 16, m.digitChar = n.digitChar → m = n := by decide

/-- A number is told by its digits. -/
theorem toDigits_inj {base : Nat} (hbase : 1 < base) (hle : base ≤ 16) {m n : Nat}
    (h : Nat.toDigits base m = Nat.toDigits base n) : m = n := by
  induction m using Nat.strongRecOn generalizing n with
  | ind m ih =>
    rw [Nat.toDigits_eq_if hbase, Nat.toDigits_eq_if (n := n) hbase] at h
    by_cases hm : m < base <;> by_cases hn : n < base <;> simp only [hm, hn, if_true, if_false] at h
    · exact digitChar_inj m (by omega) n (by omega) (List.cons.inj h).1
    · have hlength := congrArg List.length h
      simp at hlength
    · have hlength := congrArg List.length h
      simp at hlength
    · obtain ⟨hdiv, hmod⟩ := List.append_inj' h rfl
      have hlt : m / base < m := Nat.div_lt_self (by omega) hbase
      have hbound (k : Nat) : k % base < 16 := Nat.lt_of_lt_of_le (Nat.mod_lt k (by omega)) hle
      have hdiv := ih _ hlt hdiv
      have hmod := digitChar_inj _ (hbound m) _ (hbound n) (List.cons.inj hmod).1
      rw [← Nat.div_add_mod m base, ← Nat.div_add_mod n base, hdiv, hmod]

end Digits

section Codes

variable {α : Type} {f : α → List Char}

/-- No two written forms begin the same text. -/
def SelfDelimiting (f : α → List Char) : Prop :=
  ∀ ⦃a b x y⦄, f a ++ x = f b ++ y → a = b ∧ x = y

/-- A list that ends with a character with which no element begins is told by its written form, and
so is what follows it. -/
theorem SelfDelimiting.flatMap_append_cons_inj (h : SelfDelimiting f) {stop : Char}
    (hstop : ∀ a, ∃ c cs, f a = c :: cs ∧ c ≠ stop) {as bs : List α} {x y : List Char}
    (heq : as.flatMap f ++ stop :: x = bs.flatMap f ++ stop :: y) : as = bs ∧ x = y := by
  induction as generalizing bs with
  | nil =>
    cases bs with
    | nil => exact ⟨rfl, (List.cons.inj heq).2⟩
    | cons b bs =>
      obtain ⟨c, cs, hc, hne⟩ := hstop b
      rw [List.flatMap_cons, hc] at heq
      exact absurd (List.cons.inj heq).1.symm hne
  | cons a as ih =>
    cases bs with
    | nil =>
      obtain ⟨c, cs, hc, hne⟩ := hstop a
      rw [List.flatMap_cons, hc] at heq
      exact absurd (List.cons.inj heq).1 hne
    | cons b bs =>
      rw [List.flatMap_cons, List.flatMap_cons, List.append_assoc, List.append_assoc] at heq
      obtain ⟨rfl, hrest⟩ := h heq
      obtain ⟨rfl, hxy⟩ := ih hrest
      exact ⟨rfl, hxy⟩

end Codes

end RollCall
