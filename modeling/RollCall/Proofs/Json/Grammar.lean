/-! The grammar of documents. Every form is a relation between a text, what the text begins with, and
what follows it there. -/
namespace RollCall.Json

/-- What a document stands for. A number is a whole number times a power of ten. -/
inductive Value
  | null
  | bool (b : Bool)
  | number (mantissa exponent : Int)
  | string (s : String)
  | array (elements : List Value)
  | object (members : List (String × Value))

def isBlank (c : Char) : Bool := c = ' ' || c = '\t' || c = '\n' || c = '\r'

inductive Blanks : List Char → List Char → Prop
  | done {cs : List Char} : Blanks cs cs
  | more {c : Char} {cs rest : List Char} (hc : isBlank c = true) (h : Blanks cs rest) :
      Blanks (c :: cs) rest

section Strings

def escapes : List (Char × Char) :=
  [('"', '"'), ('\\', '\\'), ('/', '/'), ('b', '\x08'), ('f', '\x0c'), ('n', '\n'), ('r', '\r'),
    ('t', '\t')]

def hexValue? (c : Char) : Option Nat :=
  if '0' ≤ c ∧ c ≤ '9' then some (c.toNat - 0x30)
  else if 'a' ≤ c ∧ c ≤ 'f' then some (c.toNat - 0x57)
  else if 'A' ≤ c ∧ c ≤ 'F' then some (c.toNat - 0x37)
  else none

inductive UnitForm : List Char → Nat → List Char → Prop
  | digits {c₁ c₂ c₃ c₄ : Char} {n₁ n₂ n₃ n₄ : Nat} {rest : List Char}
      (h₁ : hexValue? c₁ = some n₁) (h₂ : hexValue? c₂ = some n₂) (h₃ : hexValue? c₃ = some n₃)
      (h₄ : hexValue? c₄ = some n₄) :
      UnitForm (c₁ :: c₂ :: c₃ :: c₄ :: rest) (4096 * n₁ + 256 * n₂ + 16 * n₃ + n₄) rest

/-- The first of the two numbers that stand for a character beyond 16 bits. -/
def IsHigh (n : Nat) : Prop := 0xD800 ≤ n ∧ n < 0xDC00

def IsLow (n : Nat) : Prop := 0xDC00 ≤ n ∧ n < 0xE000

def joined (high low : Nat) : Char := Char.ofNat (0x10000 + 0x400 * (high - 0xD800) + (low - 0xDC00))

/-- A character between quotation marks: as it is, by a letter, or by one or two numbers. -/
inductive CharForm : List Char → Char → List Char → Prop
  | plain {c : Char} {rest : List Char} (h : 0x20 ≤ c.toNat) (hq : c ≠ '"') (hb : c ≠ '\\') :
      CharForm (c :: rest) c rest
  | letter {e c : Char} {rest : List Char} (h : (e, c) ∈ escapes) :
      CharForm ('\\' :: e :: rest) c rest
  | number {n : Nat} {cs rest : List Char} (h : UnitForm cs n rest) (hn : n.isValidChar) :
      CharForm ('\\' :: 'u' :: cs) (Char.ofNat n) rest
  | numbers {high low : Nat} {cs cs' rest : List Char} (h : UnitForm cs high ('\\' :: 'u' :: cs'))
      (hhigh : IsHigh high) (h' : UnitForm cs' low rest) (hlow : IsLow low) :
      CharForm ('\\' :: 'u' :: cs) (joined high low) rest

/-- The characters up to a quotation mark, and the mark. -/
inductive CharsForm : List Char → List Char → List Char → Prop
  | done {rest : List Char} : CharsForm ('"' :: rest) [] rest
  | more {c : Char} {cs cs' s rest : List Char} (hc : CharForm cs c cs')
      (h : CharsForm cs' s rest) : CharsForm cs (c :: s) rest

end Strings

section Numbers

structure DigitsForm (cs digits rest : List Char) : Prop where
  eq_append : cs = digits ++ rest
  ne_nil : digits ≠ []
  all_isDigit : ∀ c ∈ digits, c.isDigit = true

inductive FractionForm : List Char → List Char → List Char → Prop
  | without {cs : List Char} : FractionForm cs [] cs
  | point {cs digits rest : List Char} (h : DigitsForm cs digits rest) :
      FractionForm ('.' :: cs) digits rest

inductive ExponentForm : List Char → Int → List Char → Prop
  | without {cs : List Char} : ExponentForm cs 0 cs
  | unsigned {e : Char} {cs digits rest : List Char} (he : e = 'e' ∨ e = 'E')
      (h : DigitsForm cs digits rest) :
      ExponentForm (e :: cs) (Nat.ofDigitChars 10 digits 0) rest
  | plus {e : Char} {cs digits rest : List Char} (he : e = 'e' ∨ e = 'E')
      (h : DigitsForm cs digits rest) :
      ExponentForm (e :: '+' :: cs) (Nat.ofDigitChars 10 digits 0) rest
  | minus {e : Char} {cs digits rest : List Char} (he : e = 'e' ∨ e = 'E')
      (h : DigitsForm cs digits rest) :
      ExponentForm (e :: '-' :: cs) (-Nat.ofDigitChars 10 digits 0) rest

/-- A number without a sign: no zero stands before another digit. -/
inductive MagnitudeForm : List Char → Nat → Int → List Char → Prop
  | parts {cs cs₁ cs₂ whole fraction rest : List Char} {exponent : Int}
      (hwhole : DigitsForm cs whole cs₁) (hzero : whole.head? = some '0' → whole = ['0'])
      (hfraction : FractionForm cs₁ fraction cs₂) (hexponent : ExponentForm cs₂ exponent rest) :
      MagnitudeForm cs (Nat.ofDigitChars 10 (whole ++ fraction) 0) (exponent - fraction.length) rest

inductive NumberForm : List Char → Int → Int → List Char → Prop
  | positive {cs rest : List Char} {m : Nat} {e : Int} (h : MagnitudeForm cs m e rest) :
      NumberForm cs m e rest
  | negative {cs rest : List Char} {m : Nat} {e : Int} (h : MagnitudeForm cs m e rest) :
      NumberForm ('-' :: cs) (-m) e rest

end Numbers

inductive Part
  | value (v : Value)
  /-- A value with the blanks around it. -/
  | element (v : Value)
  /-- What stands in the brackets of an array that is not empty. -/
  | elements (vs : List Value)
  | member (name : String) (v : Value)
  /-- What stands in the braces of an object that is not empty. -/
  | members (ms : List (String × Value))

/-- The text begins with a part of a document. -/
inductive Form : List Char → Part → List Char → Prop
  | null {rest : List Char} : Form ("null".toList ++ rest) (.value .null) rest
  | true {rest : List Char} : Form ("true".toList ++ rest) (.value (.bool true)) rest
  | false {rest : List Char} : Form ("false".toList ++ rest) (.value (.bool false)) rest
  | number {cs rest : List Char} {m e : Int} (h : NumberForm cs m e rest) :
      Form cs (.value (.number m e)) rest
  | string {cs rest : List Char} {s : String} (h : CharsForm cs s.toList rest) :
      Form ('"' :: cs) (.value (.string s)) rest
  | emptyArray {cs rest : List Char} (h : Blanks cs (']' :: rest)) :
      Form ('[' :: cs) (.value (.array [])) rest
  | array {cs rest : List Char} {vs : List Value} (h : Form cs (.elements vs) (']' :: rest)) :
      Form ('[' :: cs) (.value (.array vs)) rest
  | emptyObject {cs rest : List Char} (h : Blanks cs ('}' :: rest)) :
      Form ('{' :: cs) (.value (.object [])) rest
  | object {cs rest : List Char} {ms : List (String × Value)}
      (h : Form cs (.members ms) ('}' :: rest)) : Form ('{' :: cs) (.value (.object ms)) rest
  | element {cs cs₁ cs₂ rest : List Char} {v : Value} (before : Blanks cs cs₁)
      (h : Form cs₁ (.value v) cs₂) (after : Blanks cs₂ rest) : Form cs (.element v) rest
  | lastElement {cs rest : List Char} {v : Value} (h : Form cs (.element v) rest) :
      Form cs (.elements [v]) rest
  | elements {cs cs' rest : List Char} {v : Value} {vs : List Value}
      (h : Form cs (.element v) (',' :: cs')) (more : Form cs' (.elements vs) rest) :
      Form cs (.elements (v :: vs)) rest
  | member {cs cs₁ cs₂ cs₃ rest : List Char} {name : String} {v : Value}
      (before : Blanks cs ('"' :: cs₁)) (hname : CharsForm cs₁ name.toList cs₂)
      (after : Blanks cs₂ (':' :: cs₃)) (h : Form cs₃ (.element v) rest) :
      Form cs (.member name v) rest
  | lastMember {cs rest : List Char} {name : String} {v : Value}
      (h : Form cs (.member name v) rest) : Form cs (.members [(name, v)]) rest
  | members {cs cs' rest : List Char} {name : String} {v : Value} {ms : List (String × Value)}
      (h : Form cs (.member name v) (',' :: cs')) (more : Form cs' (.members ms) rest) :
      Form cs (.members ((name, v) :: ms)) rest

def Document (text : List Char) (v : Value) : Prop := Form text (.element v) []

section Suffixes

variable {cs rest : List Char}

theorem Blanks.suffix (h : Blanks cs rest) : rest <:+ cs := by
  induction h with
  | done => exact List.suffix_rfl
  | more _ _ ih => exact ih.trans (List.suffix_cons _ _)

theorem CharForm.length_lt {c : Char} (h : CharForm cs c rest) : rest.length < cs.length := by
  cases h with
  | plain _ _ _ => simp
  | letter _ =>
    simp only [List.length_cons]
    omega
  | number h _ =>
    cases h
    simp only [List.length_cons]
    omega
  | numbers h _ h' _ =>
    cases h
    cases h'
    simp only [List.length_cons]
    omega

theorem CharsForm.length_lt {s : List Char} (h : CharsForm cs s rest) :
    rest.length < cs.length := by
  induction h with
  | done => simp
  | more hc _ ih => exact Nat.lt_trans ih hc.length_lt

theorem FractionForm.suffix {fraction : List Char} (h : FractionForm cs fraction rest) :
    rest <:+ cs := by
  cases h with
  | without => exact List.suffix_rfl
  | point h => exact ⟨'.' :: fraction, by rw [h.eq_append]; rfl⟩

theorem ExponentForm.suffix {exponent : Int} (h : ExponentForm cs exponent rest) :
    rest <:+ cs := by
  cases h with
  | without => exact List.suffix_rfl
  | @unsigned e cs digits rest _ h => exact ⟨e :: digits, by rw [h.eq_append]; rfl⟩
  | @plus e cs digits rest _ h => exact ⟨e :: '+' :: digits, by rw [h.eq_append]; rfl⟩
  | @minus e cs digits rest _ h => exact ⟨e :: '-' :: digits, by rw [h.eq_append]; rfl⟩

theorem NumberForm.suffix {m e : Int} (h : NumberForm cs m e rest) : rest <:+ cs := by
  have hmagnitude {cs : List Char} {m : Nat} (h : MagnitudeForm cs m e rest) : rest <:+ cs := by
    obtain ⟨hwhole, -, hfraction, hexponent⟩ := h
    have hsuffix := hexponent.suffix.trans hfraction.suffix
    rw [hwhole.eq_append]
    exact hsuffix.trans (List.suffix_append _ _)
  cases h with
  | positive h => exact hmagnitude h
  | negative h => exact (hmagnitude h).trans (List.suffix_cons _ _)

theorem Form.length_le {part : Part} (h : Form cs part rest) : rest.length ≤ cs.length := by
  induction h with
  | null => exact (List.suffix_append _ _).length_le
  | true => exact (List.suffix_append _ _).length_le
  | false => exact (List.suffix_append _ _).length_le
  | number h => exact h.suffix.length_le
  | string h => exact Nat.le_succ_of_le (Nat.le_of_lt h.length_lt)
  | emptyArray h => exact Nat.le_succ_of_le (Nat.le_of_succ_le h.suffix.length_le)
  | array _ ih => exact Nat.le_succ_of_le (Nat.le_of_succ_le ih)
  | emptyObject h => exact Nat.le_succ_of_le (Nat.le_of_succ_le h.suffix.length_le)
  | object _ ih => exact Nat.le_succ_of_le (Nat.le_of_succ_le ih)
  | element before _ after ih =>
    have hvalue := Nat.le_trans ih before.suffix.length_le
    exact Nat.le_trans after.suffix.length_le hvalue
  | lastElement _ ih => exact ih
  | elements _ _ ih ihMore => exact Nat.le_trans ihMore (Nat.le_of_succ_le ih)
  | member before hname after _ ih =>
    have hbefore := before.suffix.length_le
    have hname := hname.length_lt
    have hafter := after.suffix.length_le
    simp only [List.length_cons] at hbefore hafter
    omega
  | lastMember _ ih => exact ih
  | members _ _ ih ihMore => exact Nat.le_trans ihMore (Nat.le_of_succ_le ih)

end Suffixes

end RollCall.Json
