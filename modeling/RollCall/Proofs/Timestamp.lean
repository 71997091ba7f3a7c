import Mathlib.Algebra.Group.Nat.Defs
import RollCall.Timestamp
import RollCall.Proofs.Text.Delimited

/-! The written form of an instant tells the instant: each of its parts gives back the number that it
is written for. -/
namespace RollCall

namespace Date

def daysBefore (yearOfEra : Nat) : Nat := 365 * yearOfEra + yearOfEra / 4 - yearOfEra / 100

def yearOfDay (dayOfEra : Nat) : Nat :=
  (dayOfEra - dayOfEra / 1460 + dayOfEra / 36524 - dayOfEra / 146096) / 365

theorem yearOfDay_bounds {d : Nat} (h : d < 146097) :
    yearOfDay d < 400 ∧ daysBefore (yearOfDay d) ≤ d ∧ d ≤ daysBefore (yearOfDay d) + 365 := by
  unfold daysBefore
  generalize hy : yearOfDay d = y
  unfold yearOfDay at hy
  have hlt : y < 400 := by omega
  -- the last day of an era counts as a century of its own
  have hcentury : y / 100 = d / 36524 - d / 146096 := by
    have hcases : d / 36524 = 0 ∨ d / 36524 = 1 ∨ d / 36524 = 2 ∨ d / 36524 = 3 ∨
      d / 36524 = 4 := by omega
    obtain hc | hc | hc | hc | hc := hcases <;> omega
  -- the last year of four can begin before the days are divided
  have hleap : y / 4 = d / 1460 ∨ y % 4 = 3 ∧ y / 4 + 1 = d / 1460 := by omega
  obtain hleap | ⟨hlast, hleap⟩ := hleap
  · omega
  · omega

/-- The day of a date, counted from the first of January 1970. -/
def toDay (d : Date) : Int :=
  let marchYear := if d.month ≤ 2 then d.year - 1 else d.year
  let march := if d.month ≤ 2 then d.month + 9 else d.month - 3
  marchYear / 400 * 146097 +
    (daysBefore (marchYear % 400).toNat + (153 * march + 2) / 5 + d.day - 1 : Nat) - 719468

/-- The date of a day is the date of no other day. -/
theorem toDay_ofDay (n : Int) : (ofDay n).toDay = n := by
  generalize hera : (n + 719468) / 146097 = era
  generalize hday : ((n + 719468) % 146097).toNat = day
  have hlt : day < 146097 := by omega
  obtain ⟨hyear, hbefore, hafter⟩ := yearOfDay_bounds hlt
  simp only [ofDay, toDay, hera, hday]
  rw [← yearOfDay, ← daysBefore]
  generalize yearOfDay day = y at *
  generalize hdayOfYear : day - daysBefore y = dayOfYear
  generalize hm : (5 * dayOfYear + 2) / 153 = march
  by_cases hmarch : march < 10
  · have hmonth : ¬ march + 3 ≤ 2 := by omega
    simp only [hmarch, if_true, hmonth, if_false]
    have hdiv : (era * 400 + y + 0) / 400 = era := by omega
    have hmod : ((era * 400 + y + 0) % 400).toNat = y := by omega
    rw [hdiv, hmod]
    omega
  · have hmonth : march - 9 ≤ 2 := by omega
    simp only [hmarch, if_false, hmonth, if_true]
    have hdiv : (era * 400 + y + 1 - 1) / 400 = era := by omega
    have hmod : ((era * 400 + y + 1 - 1) % 400).toNat = y := by omega
    rw [hdiv, hmod]
    omega

end Date

section Digits

/-- Zeros before a number do not change it. -/
theorem ofDigitChars_padded (width n : Nat) :
    Nat.ofDigitChars 10 (padded width n).toList 0 = n := by
  rw [padded, String.toList_ofList, Nat.ofDigitChars_append, Nat.ofDigitChars_replicate_zero,
    Nat.mul_zero, Nat.ofDigitChars_ten_toDigits]

theorem isDigit_of_mem_padded {width n : Nat} {c : Char} (h : c ∈ (padded width n).toList) :
    c.isDigit = true := by
  rw [padded, String.toList_ofList] at h
  obtain h | h := List.mem_append.mp h
  · rw [List.eq_of_mem_replicate h]
    rfl
  · exact Nat.isDigit_of_mem_toDigits (by omega) (by omega) h

theorem length_padded {width n : Nat} (hwidth : 0 < width) (h : n < 10 ^ width) :
    (padded width n).toList.length = width := by
  have hle : (Nat.toDigits 10 n).length ≤ width :=
    (Nat.length_toDigits_le_iff (by omega) hwidth).mpr h
  simp only [padded, String.toList_ofList, List.length_append, List.length_replicate]
  omega

/-- A number is told by its digits, whatever zeros stand before them. -/
theorem padded_inj {width m n : Nat} (h : (padded width m).toList = (padded width n).toList) :
    m = n := by
  calc
    m = Nat.ofDigitChars 10 (padded width m).toList 0 := (ofDigitChars_padded width m).symm
    _ = Nat.ofDigitChars 10 (padded width n).toList 0 := by rw [h]
    _ = n := ofDigitChars_padded width n

theorem notMem_padded {width n : Nat} {c : Char} (hc : c.isDigit = false) :
    c ∉ (padded width n).toList := by
  intro hmem
  simp [isDigit_of_mem_padded hmem] at hc

/-- How many digits a fraction of a second is written with. -/
def fractionLength (nanos : Nat) : Nat :=
  if nanos = 0 then 0
  else if nanos % 1000000 = 0 then 3
  else if nanos % 1000 = 0 then 6
  else 9

def fractionDigits (nanos : Nat) : List Char :=
  if nanos = 0 then []
  else (padded (fractionLength nanos) (nanos / 10 ^ (9 - fractionLength nanos))).toList

theorem toList_writtenFraction (nanos : Nat) :
    (writtenFraction nanos).toList = if nanos = 0 then [] else '.' :: fractionDigits nanos := by
  have hpoint (width n : Nat) : ("." ++ padded width n).toList = '.' :: (padded width n).toList :=
    String.toList_append
  unfold writtenFraction fractionDigits fractionLength
  by_cases hzero : nanos = 0
  · simp only [hzero, if_true]
    rfl
  · simp only [hzero, if_false]
    split
    · exact hpoint 3 _
    split
    · exact hpoint 6 _
    · rw [Nat.sub_self, Nat.pow_zero, Nat.div_one]
      exact hpoint 9 _

theorem fractionLength_dvd (nanos : Nat) :
    fractionLength nanos ∈ [0, 3, 6, 9] ∧ 10 ^ (9 - fractionLength nanos) ∣ nanos := by
  unfold fractionLength
  split
  next hzero => simp [hzero]
  split
  · simp
    omega
  split
  · simp
    omega
  · simp

theorem length_fractionDigits {nanos : Nat} (h : nanos < 1000000000) :
    (fractionDigits nanos).length = fractionLength nanos := by
  unfold fractionDigits
  split
  next hzero =>
    rw [hzero]
    rfl
  next hzero =>
    have hbounds : 0 < fractionLength nanos ∧ fractionLength nanos ≤ 9 := by
      unfold fractionLength
      rw [if_neg hzero]
      split
      · omega
      split <;> omega
    have hpow : 10 ^ (9 - fractionLength nanos) * 10 ^ fractionLength nanos = 1000000000 := by
      rw [← Nat.pow_add, Nat.sub_add_cancel hbounds.2]
    apply length_padded hbounds.1
    apply Nat.div_lt_of_lt_mul
    rw [hpow]
    exact h

/-- The digits of a fraction of a second give back its nanoseconds. -/
theorem value_fractionDigits {nanos : Nat} (h : nanos < 1000000000) :
    Nat.ofDigitChars 10 (fractionDigits nanos) 0 * 10 ^ (9 - (fractionDigits nanos).length) =
      nanos := by
  rw [length_fractionDigits h]
  unfold fractionDigits
  split
  next hzero => rw [hzero, Nat.ofDigitChars_nil, Nat.zero_mul]
  · rw [ofDigitChars_padded, Nat.div_mul_cancel (fractionLength_dvd nanos).2]

/-- A fraction of a second is told by its written form. -/
theorem writtenFraction_inj {m n : Nat} (hm : m < 1000000000) (hn : n < 1000000000)
    (h : (writtenFraction m).toList = (writtenFraction n).toList) : m = n := by
  have htail (k : Nat) : (writtenFraction k).toList.tail = fractionDigits k := by
    rw [toList_writtenFraction]
    split
    next hzero =>
      rw [hzero]
      rfl
    · rfl
  have hdigits : fractionDigits m = fractionDigits n := by
    rw [← htail, h, htail]
  rw [← value_fractionDigits hm, hdigits, value_fractionDigits hn]

theorem toList_writtenYear (y : Int) :
    (writtenYear y).toList =
      (if 0 ≤ y ∧ y ≤ 9999 then [] else if y < 0 then ['-'] else ['+']) ++
        (padded 4 y.natAbs).toList := by
  unfold writtenYear
  split
  · rename_i hy
    have habs : y.toNat = y.natAbs := by omega
    rw [habs, List.nil_append]
  split <;> rw [String.toList_append] <;> rfl

theorem minus_mem_writtenYear_iff {y : Int} : '-' ∈ (writtenYear y).toList ↔ y < 0 := by
  have hdigits : '-' ∉ (padded 4 y.natAbs).toList := notMem_padded rfl
  rw [toList_writtenYear, List.mem_append, or_iff_left hdigits]
  split
  · simp
    omega
  split <;> simp <;> omega

theorem T_notMem_writtenYear (y : Int) : 'T' ∉ (writtenYear y).toList := by
  have hdigits : 'T' ∉ (padded 4 y.natAbs).toList := notMem_padded rfl
  rw [toList_writtenYear, List.mem_append, or_iff_left hdigits]
  split
  · simp
  split <;> simp

theorem filter_writtenYear (y : Int) :
    (writtenYear y).toList.filter Char.isDigit = (padded 4 y.natAbs).toList := by
  have hdigits : (padded 4 y.natAbs).toList.filter Char.isDigit = (padded 4 y.natAbs).toList :=
    List.filter_eq_self.mpr fun c => isDigit_of_mem_padded
  rw [toList_writtenYear, List.filter_append, hdigits]
  split
  · exact List.nil_append _
  split <;> exact List.nil_append _

/-- A year is told by its digits and by whether a minus sign stands before them. -/
theorem writtenYear_inj {y z : Int} (h : (writtenYear y).toList = (writtenYear z).toList) :
    y = z := by
  have habs : y.natAbs = z.natAbs := by
    have hpadded : (padded 4 y.natAbs).toList = (padded 4 z.natAbs).toList := by
      rw [← filter_writtenYear, h, filter_writtenYear]
    exact padded_inj hpadded
  have hsign : y < 0 ↔ z < 0 := by
    rw [← minus_mem_writtenYear_iff, h, minus_mem_writtenYear_iff]
  omega

end Digits

namespace Date

def text (d : Date) : List Char :=
  (writtenYear d.year).toList ++ '-' :: (padded 2 d.month).toList ++ '-' :: (padded 2 d.day).toList

theorem text_inj {d e : Date} (h : d.text = e.text) : d = e := by
  have hminus (n : Nat) : '-' ∉ (padded 2 n).toList := notMem_padded rfl
  obtain ⟨hrest, hday⟩ := append_cons_inj_of_last (hminus d.day) (hminus e.day) h
  obtain ⟨hyear, hmonth⟩ := append_cons_inj_of_last (hminus d.month) (hminus e.month) hrest
  cases d
  cases e
  rw [mk.injEq]
  exact ⟨writtenYear_inj hyear, padded_inj hmonth, padded_inj hday⟩

theorem T_notMem_text (d : Date) : 'T' ∉ d.text := by
  have hdigits (n : Nat) : 'T' ∉ (padded 2 n).toList := notMem_padded rfl
  simp [text, T_notMem_writtenYear, hdigits]

end Date

namespace Timestamp

/-- An instant with a leap second only after a second 59. After any other second, a leap second would
be written like the second that follows it. -/
structure Proper (t : Timestamp) : Prop where
  nanos_lt : t.nanos < 2000000000
  leap : 1000000000 ≤ t.nanos → t.seconds % 60 = 59

variable {t u : Timestamp}

/-- The second that is written: a leap second is the second 60. -/
def writtenSecond (t : Timestamp) : Nat :=
  t.secondOfDay % 60 + if 1000000000 ≤ t.nanos then 1 else 0

/-- The nanoseconds that are written, which are less than a second. -/
def writtenNanos (t : Timestamp) : Nat :=
  if 1000000000 ≤ t.nanos then t.nanos - 1000000000 else t.nanos

theorem writtenSecond_lt (t : Timestamp) : t.writtenSecond < 100 := by
  unfold writtenSecond
  split <;> omega

theorem Proper.writtenNanos_lt (ht : t.Proper) : t.writtenNanos < 1000000000 := by
  have hnanos := ht.nanos_lt
  unfold writtenNanos
  split <;> omega

/-- A second 60 is a leap second. -/
theorem Proper.leap_iff (ht : t.Proper) : 1000000000 ≤ t.nanos ↔ t.writtenSecond = 60 := by
  have hsecond : t.secondOfDay % 60 = (t.seconds % 60).toNat := by
    unfold secondOfDay
    omega
  have hleap := ht.leap
  unfold writtenSecond
  split <;> omega

/-- The day and the parts of the time that are written make up the instant. -/
theorem Proper.eq_of_parts (ht : t.Proper) (hu : u.Proper)
    (hday : t.seconds / 86400 = u.seconds / 86400)
    (hhour : t.secondOfDay / 3600 = u.secondOfDay / 3600)
    (hminute : t.secondOfDay / 60 % 60 = u.secondOfDay / 60 % 60)
    (hsecond : t.writtenSecond = u.writtenSecond) (hnanos : t.writtenNanos = u.writtenNanos) :
    t = u := by
  have hleap : 1000000000 ≤ t.nanos ↔ 1000000000 ≤ u.nanos := by
    rw [ht.leap_iff, hsecond, ← hu.leap_iff]
  unfold writtenSecond at hsecond
  unfold writtenNanos at hnanos
  simp only [hleap] at hsecond hnanos
  have hofDay : t.secondOfDay = u.secondOfDay := by omega
  have hseconds : t.seconds = u.seconds := by
    unfold secondOfDay at hofDay
    omega
  have hnanos : t.nanos = u.nanos := by
    split at hnanos <;> omega
  cases t
  cases u
  rw [mk.injEq]
  exact ⟨hseconds, hnanos⟩

def clockText (hour minute second nanos : Nat) : List Char :=
  (padded 2 hour).toList ++ ':' :: ((padded 2 minute).toList ++ ':' ::
    ((padded 2 second).toList ++ ((writtenFraction nanos).toList ++ ['Z'])))

theorem clockText_inj {h h' m m' s s' n n' : Nat} (hs : s < 100) (hs' : s' < 100)
    (hn : n < 1000000000) (hn' : n' < 1000000000) (heq : clockText h m s n = clockText h' m' s' n') :
    h = h' ∧ m = m' ∧ s = s' ∧ n = n' := by
  have hcolon (k : Nat) : ':' ∉ (padded 2 k).toList := notMem_padded rfl
  obtain ⟨hhour, hrest⟩ := append_cons_inj_of_first (hcolon h) (hcolon h') heq
  obtain ⟨hminute, hrest⟩ := append_cons_inj_of_first (hcolon m) (hcolon m') hrest
  have hlength : (padded 2 s).toList.length = (padded 2 s').toList.length := by
    rw [length_padded (by omega) (by omega), length_padded (by omega) (by omega)]
  obtain ⟨hsecond, hrest⟩ := List.append_inj hrest hlength
  exact ⟨padded_inj hhour, padded_inj hminute, padded_inj hsecond,
    writtenFraction_inj hn hn' (List.append_cancel_right hrest)⟩

theorem toList_written (t : Timestamp) :
    t.written.toList = t.date.text ++ 'T' :: clockText (t.secondOfDay / 3600)
      (t.secondOfDay / 60 % 60) t.writtenSecond t.writtenNanos := by
  simp [written, Date.text, clockText, writtenSecond, writtenNanos, String.toList_append]

/-- An instant is told by its written form. -/
theorem written_inj (ht : t.Proper) (hu : u.Proper) (h : t.written = u.written) : t = u := by
  have hlists := congrArg String.toList h
  rw [toList_written, toList_written] at hlists
  obtain ⟨hdate, hclock⟩ :=
    append_cons_inj_of_first (Date.T_notMem_text _) (Date.T_notMem_text _) hlists
  have hday : t.seconds / 86400 = u.seconds / 86400 := by
    calc
      t.seconds / 86400 = t.date.toDay := (Date.toDay_ofDay _).symm
      _ = u.date.toDay := by rw [Date.text_inj hdate]
      _ = u.seconds / 86400 := Date.toDay_ofDay _
  obtain ⟨hhour, hminute, hsecond, hnanos⟩ := clockText_inj t.writtenSecond_lt u.writtenSecond_lt
    ht.writtenNanos_lt hu.writtenNanos_lt hclock
  exact ht.eq_of_parts hu hday hhour hminute hsecond hnanos

end Timestamp

end RollCall
