import RollCall.Text

/-! The order of texts by code points is the order of their encoded bytes. No sequence of one
character begins a sequence of another, so the first character that differs decides both. -/
namespace RollCall.Utf8

def bytesOf (s : String) : List UInt8 := s.toUTF8.data.toList

theorem bytesOf_eq_flatMap (s : String) : bytesOf s = s.toList.flatMap String.utf8EncodeChar := by
  have h : s.toList.utf8Encode = s.toByteArray := String.utf8Encode_toList
  unfold bytesOf
  rw [String.toUTF8_eq_toByteArray, ← h, List.utf8Encode, List.toList_data_toByteArray]

/-- The greatest digit to the base 64 in which two numbers differ decides their order. -/
private theorem lt_digits64 {m n : Nat} (h : m < n) :
    m / 262144 < n / 262144 ∨ m / 262144 = n / 262144 ∧
      (m / 4096 % 64 < n / 4096 % 64 ∨ m / 4096 % 64 = n / 4096 % 64 ∧
        (m / 64 % 64 < n / 64 % 64 ∨ m / 64 % 64 = n / 64 % 64 ∧ m % 64 < n % 64)) := by
  have last (a b : Nat) (h : a < b) : a / 64 < b / 64 ∨ a / 64 = b / 64 ∧ a % 64 < b % 64 := by
    omega
  have h0 := last m n h
  have h1 := last (m / 64) (n / 64)
  have h2 := last (m / 64 / 64) (n / 64 / 64)
  simp only [Nat.div_div_eq_div_mul, Nat.reduceMul] at h1 h2
  omega

/-- The lesser character has the lesser bytes, whatever follows either of them. -/
theorem encode_append_lt {c d : Char} (h : c < d) (x y : List UInt8) :
    String.utf8EncodeChar c ++ x < String.utf8EncodeChar d ++ y := by
  have hcd : c.val.toNat < d.val.toNat := h
  have hd : d.val.toNat < 0x110000 := by
    rcases d.valid with hv | hv <;> grind
  have hdigits := lt_digits64 hcd
  simp only [String.utf8EncodeChar]
  generalize c.val.toNat = m at *
  generalize d.val.toNat = n at *
  by_cases hbig : 0xFFFF < m
  · -- Both take four bytes, which are the digits to the base 64.
    have hm : ¬ m ≤ 0x7F ∧ ¬ m ≤ 0x7FF ∧ ¬ m ≤ 0xFFFF := by omega
    have hn : ¬ n ≤ 0x7F ∧ ¬ n ≤ 0x7FF ∧ ¬ n ≤ 0xFFFF := by omega
    simp only [hm, hn, if_false, List.cons_append, List.cons_lt_cons_iff, UInt8.lt_iff_toNat_lt,
      ← UInt8.toNat_inj, UInt8.toNat_ofNat']
    simp (disch := omega) only [Nat.mod_eq_of_lt (b := 2 ^ 8)]
    clear hcd
    omega
  · by_cases hm : m ≤ 0x7F <;> by_cases hm' : m ≤ 0x7FF <;> by_cases hm'' : m ≤ 0xFFFF <;>
      by_cases hn : n ≤ 0x7F <;> by_cases hn' : n ≤ 0x7FF <;> by_cases hn'' : n ≤ 0xFFFF <;>
      simp only [hm, hm', hm'', hn, hn', hn'', if_true, if_false, List.cons_append,
        List.cons_lt_cons_iff, UInt8.lt_iff_toNat_lt, ← UInt8.toNat_inj, UInt8.toNat_ofNat'] <;>
      omega

private theorem flatMap_encode_lt {as bs : List Char} (h : as < bs) :
    as.flatMap String.utf8EncodeChar < bs.flatMap String.utf8EncodeChar := by
  induction as generalizing bs with
  | nil =>
    cases bs with
    | nil => exact absurd h (List.lt_irrefl [])
    | cons b bs =>
      obtain ⟨x, xs, hx⟩ := List.exists_cons_of_ne_nil (String.utf8EncodeChar_ne_nil (c := b))
      simp [hx]
  | cons a as ih =>
    cases bs with
    | nil => exact absurd h (List.not_lt_nil _)
    | cons b bs =>
      simp only [List.flatMap_cons]
      rcases List.cons_lt_cons_iff.mp h with hab | ⟨rfl, hrest⟩
      · exact encode_append_lt hab _ _
      · exact List.append_left_lt (ih hrest)

/-- Texts are in the order of their bytes. -/
theorem bytesOf_lt_iff {s t : String} : bytesOf s < bytesOf t ↔ s < t := by
  have mono {s t : String} (h : s < t) : bytesOf s < bytesOf t := by
    rw [bytesOf_eq_flatMap, bytesOf_eq_flatMap]
    exact flatMap_encode_lt h
  constructor
  · intro h
    by_cases hst : s < t
    · exact hst
    by_cases hts : t < s
    · exact absurd (mono hts) (List.lt_asymm h)
    · have heq : s = t := String.le_antisymm (String.not_lt.mp hts) (String.not_lt.mp hst)
      rw [heq] at h
      exact absurd h (List.lt_irrefl _)
  · exact mono

end RollCall.Utf8
