import RollCall.Json
import RollCall.Proofs.Json.Grammar

/-! What is written for a value is a document of that value, at any depth. -/
namespace RollCall.Json

section Values

mutual

/-- What a value stands for in the grammar of documents. -/
def value : Json → Value
  | .bool b => .bool b
  | .nat n => .number n 0
  | .string s => .string s
  | .array items => .array (values items)
  | .object members => .object (memberValues members)

def values : List Json → List Value
  | [] => []
  | item :: items => item.value :: values items

def memberValues : List (String × Json) → List (String × Value)
  | [] => []
  | (name, item) :: members => (name, item.value) :: memberValues members

end

theorem values_eq_map (items : List Json) : values items = items.map value := by
  induction items with
  | nil => rfl
  | cons item items ih => rw [values, ih, List.map_cons]

theorem memberValues_eq_map (members : List (String × Json)) :
    memberValues members = members.map fun m => (m.1, m.2.value) := by
  induction members with
  | nil => rfl
  | cons m members ih => rw [memberValues, ih, List.map_cons]

end Values

section Strings

theorem hexValue?_hexDigit : ∀ n < 16, hexValue? (hexDigit n) = some n := by decide

/-- Every character is written so that it is read again. -/
theorem charForm_writeChar (c : Char) (rest : List Char) : CharForm (writeChar c ++ rest) c rest := by
  unfold writeChar
  -- the seven characters that are written by a letter
  iterate 7
    split
    · rename_i h
      subst h
      exact .letter (by decide)
  split
  · rename_i hcontrol
    have hunit : UnitForm ('0' :: '0' :: hexDigit (c.toNat / 16) :: hexDigit (c.toNat % 16) :: rest)
        (4096 * 0 + 256 * 0 + 16 * (c.toNat / 16) + c.toNat % 16) rest :=
      .digits (hexValue?_hexDigit 0 (by omega)) (hexValue?_hexDigit 0 (by omega))
        (hexValue?_hexDigit _ (by omega)) (hexValue?_hexDigit _ (by omega))
    have hvalue : 4096 * 0 + 256 * 0 + 16 * (c.toNat / 16) + c.toNat % 16 = c.toNat := by omega
    rw [hvalue] at hunit
    have hform := CharForm.number hunit (.inl (by omega))
    rwa [Char.ofNat_toNat] at hform
  · rename_i hmark hslash _ _ _ _ _ hcontrol
    exact .plain (by omega) hmark hslash

theorem charsForm_flatMap_writeChar (s rest : List Char) :
    CharsForm (s.flatMap writeChar ++ '"' :: rest) s rest := by
  induction s with
  | nil => exact .done
  | cons c s ih =>
    rw [List.flatMap_cons, List.append_assoc]
    exact .more (charForm_writeChar c _) ih

theorem charsForm_writeString (s : String) (rest : List Char) :
    CharsForm (s.toList.flatMap writeChar ++ ['"'] ++ rest) s.toList rest := by
  rw [List.append_assoc]
  exact charsForm_flatMap_writeChar s.toList rest

end Strings

section Numbers

/-- No zero is written before another digit. -/
theorem toDigits_of_head_zero {n : Nat} (h : (Nat.toDigits 10 n).head? = some '0') :
    Nat.toDigits 10 n = ['0'] := by
  induction n using Nat.strongRecOn with
  | ind n ih =>
    by_cases hn : n < 10
    · rw [Nat.toDigits_of_lt_base hn] at h ⊢
      simpa using h
    · rw [Nat.toDigits_eq_if (by omega), if_neg hn, List.head?_append,
        Option.or_of_isSome (by simp)] at h
      have hzero := ih (n / 10) (by omega) h
      have hvalue := Nat.ofDigitChars_ten_toDigits (n := n / 10)
      rw [hzero] at hvalue
      have hdiv : 0 = n / 10 := hvalue
      omega

theorem numberForm_toDigits (n : Nat) (rest : List Char) :
    NumberForm (Nat.toDigits 10 n ++ rest) n 0 rest := by
  have hwhole : DigitsForm (Nat.toDigits 10 n ++ rest) (Nat.toDigits 10 n) rest :=
    ⟨rfl, Nat.toDigits_ne_nil, fun c hc => Nat.isDigit_of_mem_toDigits (by omega) (by omega) hc⟩
  have hform := MagnitudeForm.parts hwhole toDigits_of_head_zero .without .without
  rw [List.append_nil, Nat.ofDigitChars_ten_toDigits] at hform
  exact .positive hform

end Numbers

section Blanks

theorem blanks_newLine (depth : Nat) (rest : List Char) : Blanks (newLine depth ++ rest) rest := by
  refine .more (by decide) ?_
  generalize 2 * depth = k
  induction k with
  | zero => exact .done
  | succ k ih => exact .more (by decide) ih

end Blanks

section Members

variable {depth : Nat} {cs cs' rest : List Char} {v : Value}

theorem form_writeString (s : String) (rest : List Char) :
    Form (writeString s ++ rest) (.value (.string s)) rest :=
  .string (charsForm_writeString s rest)

theorem form_element (h : Form cs (.value v) cs') (after : Blanks cs' rest) :
    Form (newLine depth ++ cs) (.element v) rest :=
  .element (blanks_newLine depth cs) h after

theorem form_member (name : String) (h : Form cs (.value v) cs') (after : Blanks cs' rest) :
    Form (newLine depth ++ (writeString name ++ (':' :: ' ' :: cs))) (.member name v) rest := by
  have hvalue : Form (' ' :: cs) (.element v) rest := .element (.more rfl .done) h after
  have hname := charsForm_writeString name (':' :: ' ' :: cs)
  exact .member (blanks_newLine depth _) hname .done hvalue

end Members

mutual

/-- What is written for a value has the form of it, whatever follows. -/
theorem form_writeAt (depth : Nat) (rest : List Char) :
    ∀ j : Json, Form (writeAt depth j ++ rest) (.value j.value) rest
  | .bool true => .true
  | .bool false => .false
  | .nat n => .number (numberForm_toDigits n rest)
  | .string s => form_writeString s rest
  | .array [] => .emptyArray .done
  | .array (item :: items) => by
    have hitem := form_writeAt (depth + 1) (writeItems depth items ++ rest) item
    have hform := form_writeItems depth rest items hitem
    simpa [writeAt, value, values] using Form.array hform
  | .object [] => .emptyObject .done
  | .object ((name, item) :: members) => by
    have hitem := form_writeAt (depth + 1) (writeMembers depth members ++ rest) item
    have hform := form_writeMembers depth rest name members hitem
    simpa [writeAt, value, memberValues] using Form.object hform

/-- The items after the first one, up to the bracket that closes. -/
theorem form_writeItems (depth : Nat) (rest : List Char) {cs : List Char} {v : Value} :
    ∀ items : List Json, Form cs (.value v) (writeItems depth items ++ rest) →
      Form (newLine (depth + 1) ++ cs) (.elements (v :: values items)) (']' :: rest)
  | [], h => by
    rw [writeItems, List.append_assoc] at h
    exact .lastElement (form_element h (blanks_newLine depth _))
  | item :: items, h => by
    have hitem := form_writeAt (depth + 1) (writeItems depth items ++ rest) item
    have hmore := form_writeItems depth rest items hitem
    rw [← List.append_assoc, ← List.append_assoc] at hmore
    exact .elements (form_element h .done) hmore

/-- The members after the first one, up to the brace that closes. -/
theorem form_writeMembers (depth : Nat) (rest : List Char) {cs : List Char} {v : Value}
    (name : String) :
    ∀ members : List (String × Json), Form cs (.value v) (writeMembers depth members ++ rest) →
      Form (newLine (depth + 1) ++ (writeString name ++ (':' :: ' ' :: cs)))
        (.members ((name, v) :: memberValues members)) ('}' :: rest)
  | [], h => by
    rw [writeMembers, List.append_assoc] at h
    exact .lastMember (form_member name h (blanks_newLine depth _))
  | (name', item) :: members, h => by
    have hitem := form_writeAt (depth + 1) (writeMembers depth members ++ rest) item
    have hmore := form_writeMembers depth rest name' members hitem
    rw [writeMembers] at h
    refine .members (form_member name h .done) ?_
    simpa [memberValues] using hmore

end

/-- The indented form of a value, with or without blanks after it, is a document of that value. -/
theorem document_write (j : Json) {after : List Char} (h : Blanks after []) :
    Document (j.write.toList ++ after) j.value := by
  rw [write, String.toList_ofList]
  exact .element .done (form_writeAt 0 after j) h

theorem getLast?_writeMembers (depth : Nat) (members : List (String × Json)) :
    (writeMembers depth members).getLast? = some '}' := by
  induction members with
  | nil => rw [writeMembers, List.getLast?_append]; rfl
  | cons m members ih => rw [writeMembers, ← List.cons_append, List.getLast?_append, ih]; rfl

/-- An object ends with its brace. -/
theorem getLast?_write_object (members : List (String × Json)) :
    (write (.object members)).toList.getLast? = some '}' := by
  rw [write, String.toList_ofList]
  cases members with
  | nil => rfl
  | cons m members =>
    rw [writeAt, ← List.cons_append, List.getLast?_append, getLast?_writeMembers]
    rfl

end RollCall.Json
