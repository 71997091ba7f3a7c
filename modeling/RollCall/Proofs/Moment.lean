import Mathlib.Order.Bounds.Defs
import RollCall.Proofs.Calendar
import RollCall.Proofs.Report.Document

/-! Reading a date and a time of the day in UTC, as the written form of an instant gives them. The
reader knows nothing of how instants are written, and counts by the calendar. -/
namespace RollCall

open Json (readDigits readFraction DigitsForm FractionForm NoDigit)

/-- What a text says of an instant: a date, a time of the day and the digits of a fraction of the
second. -/
structure Moment where
  date : Date
  hour : Nat
  minute : Nat
  second : Nat
  fraction : List Char

namespace Moment

section Reading

def readFixed (count : Nat) (text : List Char) : Option (Nat × List Char) := do
  let (digits, rest) ← readDigits text
  if digits.length = count then some (Nat.ofDigitChars 10 digits 0, rest) else none

/-- A number of four digits, or of more that do not begin with a zero. -/
def readLong (text : List Char) : Option (Nat × List Char) := do
  let (digits, rest) ← readDigits text
  if digits.length = 4 ∨ 4 < digits.length ∧ digits.head? ≠ some '0' then
    some (Nat.ofDigitChars 10 digits 0, rest)
  else none

/-- A year: four digits, or a sign and the digits of a year that four digits alone cannot give. -/
def readYear : List Char → Option (Int × List Char)
  | '-' :: text => do
    let (n, rest) ← readLong text
    if 0 < n then some (-n, rest) else none
  | '+' :: text => do
    let (n, rest) ← readLong text
    if 9999 < n then some (n, rest) else none
  | text => (readFixed 4 text).map fun (n, rest) => (n, rest)

/-- A part of two digits, after the character that has to come before it. -/
def readPart (c : Char) : List Char → Option (Nat × List Char)
  | [] => none
  | c' :: text => if c' = c then readFixed 2 text else none

def read (text : List Char) : Option Moment := do
  let (year, text) ← readYear text
  let (month, text) ← readPart '-' text
  let (day, text) ← readPart '-' text
  let (hour, text) ← readPart 'T' text
  let (minute, text) ← readPart ':' text
  let (second, text) ← readPart ':' text
  let (fraction, text) ← readFraction text
  if text = ['Z'] then some ⟨⟨year, month, day⟩, hour, minute, second, fraction⟩ else none

end Reading

/-- A date of the calendar and a time of the day, which has a second 60 at most. -/
structure Valid (m : Moment) : Prop where
  date : m.date.Valid
  hour_lt : m.hour < 24
  minute_lt : m.minute < 60
  second_le : m.second ≤ 60

def nanos (m : Moment) : Nat := Nat.ofDigitChars 10 m.fraction 0 * 10 ^ (9 - m.fraction.length)

/-- The instant, with days counted by the calendar. The second 60 is the leap second after the
second 59. -/
def instant (m : Moment) : Timestamp where
  seconds := m.date.dayNumber * 86400 + (m.hour * 3600 + m.minute * 60 + min m.second 59 : Nat)
  nanos := m.nanos + if m.second = 60 then 1000000000 else 0

end Moment

section Digits

variable {width n : Nat} {rest : List Char}

theorem digitsForm_padded (width n : Nat) (rest : List Char) :
    DigitsForm ((padded width n).toList ++ rest) (padded width n).toList rest := by
  refine ⟨rfl, ?_, fun c => isDigit_of_mem_padded⟩
  rw [padded, String.toList_ofList]
  exact List.append_ne_nil_of_right_ne_nil _ Nat.toDigits_ne_nil

theorem readDigits_padded (width n : Nat) (hrest : NoDigit rest) :
    readDigits ((padded width n).toList ++ rest) = some ((padded width n).toList, rest) :=
  (digitsForm_padded width n rest).readDigits_eq hrest

namespace Moment

theorem readFixed_padded (hwidth : 0 < width) (hn : n < 10 ^ width) (hrest : NoDigit rest) :
    readFixed width ((padded width n).toList ++ rest) = some (n, rest) := by
  unfold readFixed
  rw [readDigits_padded width n hrest]
  simp [length_padded hwidth hn, ofDigitChars_padded]

theorem readPart_padded (c : Char) (hn : n < 100) (hrest : NoDigit rest) :
    readPart c (c :: ((padded 2 n).toList ++ rest)) = some (n, rest) := by
  rw [readPart, if_pos rfl, readFixed_padded (by omega) hn hrest]

/-- More digits than asked for are the digits of the number, without a zero before them. -/
theorem head_padded_ne (h : width < (padded width n).toList.length) (hwidth : 0 < width) :
    (padded width n).toList.head? ≠ some '0' := by
  have hlong : width < (Nat.toDigits 10 n).length := by
    simp only [padded, String.toList_ofList, List.length_append, List.length_replicate] at h
    omega
  have hnone : width - (Nat.toDigits 10 n).length = 0 := by omega
  rw [padded, String.toList_ofList, hnone, List.replicate_zero, List.nil_append]
  intro hzero
  rw [Json.toDigits_of_head_zero hzero, List.length_singleton] at hlong
  omega

theorem le_length_padded (width n : Nat) : width ≤ (padded width n).toList.length := by
  simp only [padded, String.toList_ofList, List.length_append, List.length_replicate]
  omega

theorem readLong_padded (n : Nat) (hrest : NoDigit rest) :
    readLong ((padded 4 n).toList ++ rest) = some (n, rest) := by
  have hlength : (padded 4 n).toList.length = 4 ∨
      4 < (padded 4 n).toList.length ∧ (padded 4 n).toList.head? ≠ some '0' := by
    have hle := le_length_padded 4 n
    by_cases hlong : 4 < (padded 4 n).toList.length
    · exact .inr ⟨hlong, head_padded_ne hlong (by omega)⟩
    · exact .inl (by omega)
  unfold readLong
  rw [readDigits_padded 4 n hrest]
  simp only [Option.bind_eq_bind, Option.bind_some, if_pos hlength, ofDigitChars_padded]

theorem readYear_of_isDigit {c : Char} (hc : c.isDigit = true) :
    readYear (c :: rest) = (readFixed 4 (c :: rest)).map fun (n, rest) => ((n : Int), rest) := by
  unfold readYear
  split
  next heq =>
    obtain rfl := (List.cons.inj heq).1
    contradiction
  next heq =>
    obtain rfl := (List.cons.inj heq).1
    contradiction
  · rfl

theorem readYear_written (y : Int) (hrest : NoDigit rest) :
    readYear ((writtenYear y).toList ++ rest) = some (y, rest) := by
  rw [toList_writtenYear, List.append_assoc]
  split
  next hplain =>
    obtain ⟨first, others, hfirst, hdigit⟩ := (digitsForm_padded 4 y.natAbs rest).head
    have hfixed := @readFixed_padded 4 y.natAbs rest (by omega) (by omega) hrest
    have habs : (y.natAbs : Int) = y := by omega
    rw [List.nil_append, hfirst, readYear_of_isDigit hdigit, ← hfirst, hfixed]
    simp only [Option.map_some, habs]
  split
  next hneg =>
    have hpos : 0 < y.natAbs := by omega
    have habs : -(y.natAbs : Int) = y := by omega
    simp only [List.cons_append, List.nil_append, readYear, readLong_padded y.natAbs hrest,
      Option.bind_eq_bind, Option.bind_some, if_pos hpos, habs]
  next hplain hneg =>
    have hlong : 9999 < y.natAbs := by omega
    have habs : (y.natAbs : Int) = y := by omega
    simp only [List.cons_append, List.nil_append, readYear, readLong_padded y.natAbs hrest,
      Option.bind_eq_bind, Option.bind_some, if_pos hlong, habs]

end Moment

theorem fractionForm_written (nanos : Nat) (rest : List Char) :
    FractionForm ((writtenFraction nanos).toList ++ rest) (fractionDigits nanos) rest := by
  rw [toList_writtenFraction]
  unfold fractionDigits
  split
  · exact .without
  · exact .point (digitsForm_padded _ _ rest)

/-- A fraction has the fewest digits that lose nothing. -/
theorem isLeast_fractionLength {nanos : Nat} (h : nanos < 1000000000) :
    IsLeast {k | k ∈ [0, 3, 6, 9] ∧ 10 ^ (9 - k) ∣ nanos} (fractionLength nanos) := by
  refine ⟨fractionLength_dvd nanos, ?_⟩
  rintro k ⟨hk, hdvd⟩
  have hcases : k = 0 ∨ k = 3 ∨ k = 6 ∨ k = 9 := by simpa using hk
  have hnone : k = 0 → 1000000000 ∣ nanos := by
    rintro rfl
    exact hdvd
  have hthree : k = 3 → 1000000 ∣ nanos := by
    rintro rfl
    exact hdvd
  have hsix : k = 6 → 1000 ∣ nanos := by
    rintro rfl
    exact hdvd
  unfold fractionLength
  split
  · omega
  split
  · omega
  split
  · omega
  · omega

end Digits

namespace Timestamp

variable {t : Timestamp}

/-- What the written form of an instant says. -/
def moment (t : Timestamp) : Moment where
  date := t.date
  hour := t.secondOfDay / 3600
  minute := t.secondOfDay / 60 % 60
  second := t.writtenSecond
  fraction := fractionDigits t.writtenNanos

theorem secondOfDay_lt (t : Timestamp) : t.secondOfDay < 86400 := by
  unfold secondOfDay
  omega

theorem valid_moment (t : Timestamp) : t.moment.Valid := by
  have hday := t.secondOfDay_lt
  constructor
  · exact Date.valid_ofDay _
  · change t.secondOfDay / 3600 < 24
    omega
  · change t.secondOfDay / 60 % 60 < 60
    omega
  · change t.writtenSecond ≤ 60
    unfold writtenSecond
    split <;> omega

/-- The written form reads as what it says. -/
theorem read_written (t : Timestamp) : Moment.read t.written.toList = some t.moment := by
  have hmark {c : Char} (rest : List Char) (hc : c.isDigit = false) : NoDigit (c :: rest) := by
    rintro c' ⟨⟩
    exact hc
  have hdate : t.date.Valid := t.valid_moment.date
  have hmonth : t.date.month < 100 := hdate.month_le.trans_lt (by omega)
  have hday : t.date.day < 100 := by
    have hle := monthLength_le t.date.year t.date.month
    exact (hdate.day_le.trans hle).trans_lt (by omega)
  have hclock := t.secondOfDay_lt
  have hfraction := fractionForm_written t.writtenNanos ['Z']
  have hlast : NoDigit ['Z'] := hmark [] rfl
  rw [toList_written, Date.text, clockText]
  simp only [List.append_assoc, List.cons_append]
  unfold Moment.read
  rw [Moment.readYear_written _ (hmark _ rfl)]
  simp only [Option.bind_eq_bind, Option.bind_some]
  rw [Moment.readPart_padded '-' hmonth (hmark _ rfl), Option.bind_some,
    Moment.readPart_padded '-' hday (hmark _ rfl), Option.bind_some,
    Moment.readPart_padded 'T' (by omega) (hmark _ rfl), Option.bind_some,
    Moment.readPart_padded ':' (by omega) (hmark _ rfl), Option.bind_some,
    Moment.readPart_padded ':' t.writtenSecond_lt (hfraction.noDigit hlast), Option.bind_some,
    hfraction.readFraction_eq hlast (by simp)]
  rfl

/-- A sign stands before exactly the years that four digits cannot give. -/
theorem sign_written (t : Timestamp) :
    t.written.toList.head? ∈ [some '+', some '-'] ↔ ¬ (0 ≤ t.date.year ∧ t.date.year ≤ 9999) := by
  rw [toList_written, Date.text, toList_writtenYear]
  simp only [List.append_assoc]
  split
  next hplain =>
    obtain ⟨c, others, hfirst, hdigit⟩ := (digitsForm_padded 4 t.date.year.natAbs _).head
    rw [List.nil_append, hfirst, List.head?_cons]
    have hsign : c ≠ '+' ∧ c ≠ '-' := by
      constructor
      · rintro rfl
        contradiction
      · rintro rfl
        contradiction
    simp [hsign, hplain]
  next hsigned =>
    split
    · simp [hsigned]
    · simp [hsigned]

theorem Proper.writtenNanos_eq (ht : t.Proper) : t.writtenNanos = t.nanos % 1000000000 := by
  have hlt := ht.nanos_lt
  unfold writtenNanos
  split <;> omega

theorem nanos_moment (ht : t.Proper) : t.moment.nanos = t.writtenNanos :=
  value_fractionDigits ht.writtenNanos_lt

theorem Proper.second_eq (ht : t.Proper) : min t.writtenSecond 59 = t.secondOfDay % 60 := by
  have hleap := ht.leap
  unfold writtenSecond secondOfDay
  split <;> omega

/-- What the written form says is the instant. -/
theorem instant_moment (ht : t.Proper) : t.moment.instant = t := by
  have hday : t.moment.date.dayNumber = t.seconds / 86400 := Date.dayNumber_ofDay _
  have hclock : (t.secondOfDay : Int) = t.seconds % 86400 := by
    unfold secondOfDay
    omega
  have hseconds : t.moment.instant.seconds = t.seconds := by
    have hsecond := ht.second_eq
    simp only [Moment.instant, hday]
    dsimp only [moment]
    rw [hsecond]
    omega
  have hnanos : t.moment.instant.nanos = t.nanos := by
    have hwritten := nanos_moment ht
    simp only [Moment.instant, hwritten]
    dsimp only [moment]
    simp only [← ht.leap_iff]
    unfold writtenNanos
    split <;> omega
  exact (Timestamp.mk.injEq ..).mpr ⟨hseconds, hnanos⟩

end Timestamp

def Json.Value.under (name : String) : Json.Value → List Json.Value
  | .object members => (members.filter (·.1 = name)).map (·.2)
  | _ => []

namespace Report

variable {r : Report}

theorem under_checkedAt_document (r : Report) :
    r.document.under "checked_at" = [.string r.checkedAt.written] := by
  unfold document Json.Value.under
  cases r.occurrences <;> rfl

/-- A report written as a document holds one text for the time of the check, and it loses nothing.
The text reads as a date of the calendar and a time of the day in UTC, which make up the instant
when days are counted by the calendar. The second 60 is a leap second, a sign is there for exactly
the years that four digits cannot give, and of 0, 3, 6 and 9 digits the fraction has the fewest that
give the nanoseconds. -/
theorem checkedAt_decodes (hr : r.checkedAt.Proper) (color : Bool) :
    ∃ (text : String) (m : Moment),
      (Json.read (r.render .json color).toList).map (·.under "checked_at") = some [.string text] ∧
      Moment.read text.toList = some m ∧ m.Valid ∧ m.instant = r.checkedAt ∧
      (m.second = 60 ↔ 1000000000 ≤ r.checkedAt.nanos) ∧
      (text.toList.head? ∈ [some '+', some '-'] ↔ ¬ (0 ≤ m.date.year ∧ m.date.year ≤ 9999)) ∧
      IsLeast {k | k ∈ [0, 3, 6, 9] ∧ 10 ^ (9 - k) ∣ r.checkedAt.nanos % 1000000000}
        m.fraction.length := by
  refine ⟨r.checkedAt.written, r.checkedAt.moment, ?_, r.checkedAt.read_written,
    r.checkedAt.valid_moment, Timestamp.instant_moment hr, hr.leap_iff.symm, ?_, ?_⟩
  · rw [read_render_json, Option.map_some, under_checkedAt_document]
  · exact r.checkedAt.sign_written
  · have hnanos : r.checkedAt.nanos % 1000000000 = r.checkedAt.writtenNanos :=
      hr.writtenNanos_eq.symm
    have hlength : r.checkedAt.moment.fraction.length = fractionLength r.checkedAt.writtenNanos :=
      length_fractionDigits hr.writtenNanos_lt
    rw [hnanos, hlength]
    exact isLeast_fractionLength hr.writtenNanos_lt

/-- The leap second at the end of a year before the year 0. -/
theorem checkedAt_decodes_leap_second :
    let r := marked ⟨-62167219201, 1500000000⟩
    r.checkedAt.Proper ∧ ∃ (text : String) (m : Moment),
      (Json.read (r.render .json false).toList).map (·.under "checked_at") = some [.string text] ∧
      Moment.read text.toList = some m ∧ m.Valid ∧ m.instant = r.checkedAt ∧
      (m.second = 60 ↔ 1000000000 ≤ r.checkedAt.nanos) ∧
      (text.toList.head? ∈ [some '+', some '-'] ↔ ¬ (0 ≤ m.date.year ∧ m.date.year ≤ 9999)) ∧
      IsLeast {k | k ∈ [0, 3, 6, 9] ∧ 10 ^ (9 - k) ∣ r.checkedAt.nanos % 1000000000}
        m.fraction.length := by
  have hr : (marked ⟨-62167219201, 1500000000⟩).checkedAt.Proper := ⟨by decide, by decide⟩
  exact ⟨hr, checkedAt_decodes hr false⟩

end Report

end RollCall
