import RollCall.Proofs.Regex.Parentheses.Escapes

/-! Classes of characters with a closing parenthesis behind the pattern. Within a class the parenthesis
is a character like any other, so a class that was read has come to its end before it. -/
namespace RollCall.Regex

variable {f : Flags} {o : OpenClass} {cs cs' : List Char}

theorem consistent_classPrimitive (h : WithParen cs cs') :
    Consistent SameValue (classPrimitive f cs) (classPrimitive f cs') := by
  cases cs with
  | nil => exact .error
  | cons c cs =>
    obtain ⟨ds, rfl, hds⟩ := h.of_cons
    by_cases hc : c = '\\'
    · subst hc
      exact consistent_escape hds
    · unfold classPrimitive
      simp only
      exact .ok ⟨rfl, hds⟩

/-- The parenthesis is no character that makes a difference between the items of a class. -/
theorem peekBeyond_iff (h : WithParen cs cs') {c : Char} (hc : c = ']' ∨ c = '-') :
    peekBeyond f cs' = some c ↔ peekBeyond f cs = some c := by
  have hparen : c ≠ ')' := by rcases hc with rfl | rfl <;> decide
  have hblank : Unicode.isBlank c = false := by rcases hc with rfl | rfl <;> decide
  have hsign : '#' ≠ c := by rcases hc with rfl | rfl <;> decide
  have hfront {ds : List Char} (hds : ds.head? = some c) :
      (ds.dropWhile Unicode.isBlank).head? = some c := by
    obtain ⟨rest, rfl⟩ := List.head?_eq_some_iff.mp hds
    rw [List.dropWhile_cons_of_neg (by simp [hblank])]
    rfl
  have hskip : WithParen (cs.dropWhile Unicode.isBlank) (cs'.dropWhile Unicode.isBlank) :=
    h.dropWhile rfl
  have hcs := @hfront cs
  have hcs' := @hfront cs'
  unfold peekBeyond
  split
  · exact h.head?_iff hparen
  generalize cs.dropWhile Unicode.isBlank = ds at hskip hcs ⊢
  generalize cs'.dropWhile Unicode.isBlank = ds' at hskip hcs' ⊢
  cases ds with
  | nil =>
    rcases hskip.of_nil with rfl | rfl
    · exact iff_of_false (fun h => hparen (Option.some.inj h).symm) fun h => nomatch hcs h
    · exact h.head?_iff hparen
  | cons d ds =>
    obtain ⟨ds', rfl, hds⟩ := hskip.of_cons
    by_cases hd : d = '#'
    · subst hd
      have hnot : ¬ cs.head? = some c := fun h => hsign (Option.some.inj (hcs h))
      have hnot' : ¬ cs'.head? = some c := fun h => hsign (Option.some.inj (hcs' h))
      have hrest : WithParen (ds.dropWhile Unicode.isBlank) (ds'.dropWhile Unicode.isBlank) :=
        hds.dropWhile rfl
      simp only
      generalize ds.dropWhile Unicode.isBlank = es at hrest ⊢
      generalize ds'.dropWhile Unicode.isBlank = es' at hrest ⊢
      cases es with
      | nil =>
        rcases hrest.of_nil with rfl | rfl
        · exact iff_of_false (fun h => hparen (Option.some.inj h).symm) hnot
        · exact iff_of_false hnot' hnot
      | cons x es =>
        obtain ⟨es', rfl, -⟩ := hrest.of_cons
        exact Iff.rfl
    · simp only

theorem consistent_classItem (h : WithParen cs cs') :
    Consistent SameValue (classItem f o cs) (classItem f o cs') := by
  refine .bind_value (consistent_classPrimitive h) fun first rest rest' hrest => ?_
  have hskip := hrest.skip f
  dsimp only
  generalize f.skip rest = ds at hskip ⊢
  generalize f.skip rest' = ds' at hskip ⊢
  cases ds with
  | nil => exact .error
  | cons c tail =>
    obtain ⟨tail', rfl, htail⟩ := hskip.of_cons
    by_cases hc : c = '-'
    · subst hc
      simp only [peekBeyond_iff htail (Or.inl rfl), peekBeyond_iff htail (Or.inr rfl)]
      split
      · exact .bind_same fun o => .ok ⟨rfl, hskip⟩
      · have hskip' := htail.skip f
        generalize f.skip tail = es at hskip' ⊢
        generalize f.skip tail' = es' at hskip' ⊢
        cases es with
        | nil => exact .error
        | cons d es =>
          obtain ⟨es', rfl, hes⟩ := hskip'.of_cons
          refine .bind_value (consistent_classPrimitive hskip') fun last rest rest' hrest => ?_
          dsimp only
          split
          · refine .bind_same fun a => .bind_same fun b => ?_
            split
            · exact .ok ⟨rfl, hrest⟩
            · exact .error
          · exact .error
    · have hne : ∀ ds, c :: tail = '-' :: ds → False := fun ds h => hc (List.cons.inj h).1
      have hne' := hskip.not_cons (by decide) hne
      simp only
      exact .bind_same fun o => .ok ⟨rfl, hskip⟩

theorem leadingDashes_eq_takeRun (fuel : Nat) (o : OpenClass) (cs : List Char) :
    leadingDashes f fuel o cs =
      takeRun f (fun o c => if c = '-' then some (o.addChar '-') else none) fuel o cs := by
  induction fuel generalizing o cs with
  | zero => rfl
  | succ fuel ih =>
    cases cs with
    | nil => rfl
    | cons c cs =>
      by_cases hc : c = '-'
      · subst hc
        exact ih (o.addChar '-') (f.skip cs)
      · rw [takeRun, if_neg hc, leadingDashes]
        exact fun ds h => hc (List.cons.inj h).1

theorem sameValue_leadingDashes (o : OpenClass) (h : WithParen cs cs') :
    SameValue (leadingDashes f cs.length o cs) (leadingDashes f cs'.length o cs') := by
  rw [leadingDashes_eq_takeRun, leadingDashes_eq_takeRun]
  exact takeRun_withParen (fun _ => rfl) (Nat.le_refl _) (Nat.le_refl _) h

/-- A closing bracket that stands first in a class, before which there may be no dash. -/
def bracketFirst (f : Flags) (negated : Bool) (o : OpenClass) (cs : List Char) :
    Bool × OpenClass × List Char :=
  match o.count, cs with
  | 0, ']' :: cs => (negated, o.addChar ']', f.skip cs)
  | _, cs => (negated, o, cs)

/-- The beginning of a class behind what says whether it is negated. -/
def openItems (f : Flags) (negated : Bool) (cs : List Char) : Bool × OpenClass × List Char :=
  let (o, cs) := leadingDashes f cs.length {} cs
  bracketFirst f negated o cs

theorem openClass_eq_openItems (cs : List Char) :
    openClass f cs =
      match f.skip cs with
      | '^' :: cs => openItems f true (f.skip cs)
      | cs => openItems f false cs := by
  unfold openClass
  generalize f.skip cs = ds
  by_cases hcaret : ∃ tail, ds = '^' :: tail
  · obtain ⟨tail, rfl⟩ := hcaret
    rfl
  · have hne : ∀ tail, ds = '^' :: tail → False := fun tail h => hcaret ⟨tail, h⟩
    simp only
    rfl

theorem sameValues_bracketFirst (negated : Bool) (h : WithParen cs cs') :
    SameValues (bracketFirst f negated o cs) (bracketFirst f negated o cs') := by
  by_cases hfirst : o.count = 0 ∧ ∃ ds, cs = ']' :: ds
  · obtain ⟨hcount, ds, rfl⟩ := hfirst
    obtain ⟨ds', rfl, hds⟩ := h.of_cons
    unfold bracketFirst
    rw [hcount]
    exact ⟨rfl, rfl, hds.skip f⟩
  · have hother {es : List Char} (hne : o.count = 0 → ∀ ds, es = ']' :: ds → False) :
        bracketFirst f negated o es = (negated, o, es) := by
      unfold bracketFirst
      split
      · next hcount => exact (hne hcount _ rfl).elim
      · rfl
    have hne (hcount : o.count = 0) : ∀ ds, cs = ']' :: ds → False :=
      fun ds hds => hfirst ⟨hcount, ds, hds⟩
    rw [hother hne, hother fun hcount => h.not_cons (by decide) (hne hcount)]
    exact ⟨rfl, rfl, h⟩

theorem sameValues_openItems (negated : Bool) (h : WithParen cs cs') :
    SameValues (openItems f negated cs) (openItems f negated cs') := by
  have hsame := sameValue_leadingDashes (f := f) {} h
  unfold openItems
  generalize leadingDashes f cs.length {} cs = x at hsame ⊢
  generalize leadingDashes f cs'.length {} cs' = y at hsame ⊢
  obtain ⟨o, rest⟩ := x
  obtain ⟨o', rest'⟩ := y
  obtain ⟨rfl, hrest⟩ := hsame
  exact sameValues_bracketFirst negated hrest

theorem sameValues_openClass (h : WithParen cs cs') :
    SameValues (openClass f cs) (openClass f cs') := by
  have hskip := h.skip f
  rw [openClass_eq_openItems, openClass_eq_openItems]
  generalize f.skip cs = ds at hskip ⊢
  generalize f.skip cs' = ds' at hskip ⊢
  split
  · next ds =>
    obtain ⟨ds', rfl, hds⟩ := hskip.of_cons
    exact sameValues_openItems true (hds.skip f)
  · next hne =>
    have hne' := hskip.not_cons (by decide) hne
    simp only
    exact sameValues_openItems false hskip

def closedName? (negated : Bool) (cs : List Char) : Option (CharSet × Bool × List Char) :=
  match cs.dropWhile (· ≠ ':') with
  | ':' :: ']' :: rest =>
    (asciiClass? (String.ofList (cs.takeWhile (· ≠ ':')))).map fun s => (s, negated, rest)
  | _ => none

theorem namedAsciiClass?_eq_closedName? (cs : List Char) :
    namedAsciiClass? cs =
      match cs with
      | ':' :: '^' :: cs => closedName? true cs
      | ':' :: cs => closedName? false cs
      | _ => none := by
  unfold namedAsciiClass?
  split
  · next ds =>
    by_cases hcaret : ∃ tail, ds = '^' :: tail
    · obtain ⟨tail, rfl⟩ := hcaret
      rfl
    · have hne : ∀ tail, ds = '^' :: tail → False := fun tail h => hcaret ⟨tail, h⟩
      simp only
      rfl
  · next hne =>
    have hne' : ∀ tail, cs = ':' :: '^' :: tail → False := fun tail => hne _
    simp only

/-- Either there is no named class, or it is the same one. -/
def SameName (x y : Option (CharSet × Bool × List Char)) : Prop :=
  (x = none ∧ y = none) ∨
    ∃ s negated rest rest', x = some (s, negated, rest) ∧ y = some (s, negated, rest') ∧
      WithParen rest rest'

theorem sameName_closedName? (negated : Bool) (h : WithParen cs cs') :
    SameName (closedName? negated cs) (closedName? negated cs') := by
  unfold closedName?
  cases hdrop : cs.dropWhile (· ≠ ':') with
  | nil =>
    rw [h.dropWhile_nil rfl hdrop]
    exact Or.inl ⟨rfl, rfl⟩
  | cons d rest =>
    obtain ⟨rest', hdrop', htake, hrest⟩ := h.dropWhile_cons hdrop
    rw [hdrop', htake]
    by_cases hclosed : d = ':' ∧ ∃ tail, rest = ']' :: tail
    · obtain ⟨rfl, tail, rfl⟩ := hclosed
      obtain ⟨tail', rfl, htail⟩ := hrest.of_cons
      simp only
      cases asciiClass? (String.ofList (cs.takeWhile (· ≠ ':'))) with
      | none => exact Or.inl ⟨rfl, rfl⟩
      | some s => exact Or.inr ⟨s, negated, tail, tail', rfl, rfl, htail⟩
    · have hne : d = ':' → ∀ tail, rest = ']' :: tail → False :=
        fun hd tail h => hclosed ⟨hd, tail, h⟩
      have hne' (hd : d = ':') := hrest.not_cons (by decide) (hne hd)
      left
      constructor
      · split
        · next heq =>
          obtain ⟨rfl, rfl⟩ := List.cons.inj heq
          exact (hne rfl _ rfl).elim
        · rfl
      · split
        · next heq =>
          obtain ⟨rfl, rfl⟩ := List.cons.inj heq
          exact (hne' rfl _ rfl).elim
        · rfl

theorem sameName_namedAsciiClass? (h : WithParen cs cs') :
    SameName (namedAsciiClass? cs) (namedAsciiClass? cs') := by
  rw [namedAsciiClass?_eq_closedName?, namedAsciiClass?_eq_closedName?]
  split
  · next tail =>
    obtain ⟨ds, rfl, hds⟩ := h.of_cons
    obtain ⟨tail', rfl, htail⟩ := hds.of_cons
    exact sameName_closedName? true htail
  · next tail hne =>
    obtain ⟨tail', rfl, htail⟩ := h.of_cons
    have hne' := htail.not_cons (by decide) fun ds hds => hne ds hds
    simp only
    exact sameName_closedName? false htail
  · next hcaret hcolon =>
    have hcaret' : ∀ tail, cs' = ':' :: '^' :: tail → False := fun tail =>
      h.not_cons (by decide) hcolon _
    have hcolon' := h.not_cons (by decide) hcolon
    simp only
    exact Or.inl ⟨rfl, rfl⟩

theorem consistent_classBody (fuel fuel' depth : Nat) (negated : Bool) (h : WithParen cs cs') :
    Consistent SameValues (classBody f fuel depth negated o cs)
      (classBody f fuel' depth negated o cs') := by
  induction fuel generalizing fuel' depth negated o cs cs' with
  | zero => exact .error
  | succ fuel ih =>
    cases fuel' with
    | zero => exact .error_right
    | succ fuel' =>
      have hskip := h.skip f
      rw [classBody, classBody]
      split
      · exact .error
      generalize f.skip cs = ds at hskip ⊢
      generalize f.skip cs' = ds' at hskip ⊢
      split
      · exact .error
      · next rest =>
        obtain ⟨rest', rfl, hrest⟩ := hskip.of_cons
        simp only
        exact .bind_same fun s => .ok ⟨rfl, rfl, hrest⟩
      · next rest =>
        obtain ⟨rest', rfl, hrest⟩ := hskip.of_cons
        simp only
        rcases sameName_namedAsciiClass? hrest with
          ⟨hname, hname'⟩ | ⟨s, negatedItem, tail, tail', hname, hname', htail⟩
        · rw [hname, hname']
          have hopen := sameValues_openClass (f := f) hrest
          generalize openClass f rest = x at hopen ⊢
          generalize openClass f rest' = y at hopen ⊢
          obtain ⟨_, _, tail⟩ := x
          obtain ⟨negatedItem, inner, tail'⟩ := y
          obtain ⟨rfl, rfl, htail⟩ := hopen
          refine .bind_values (ih fuel' (depth + 1) negatedItem htail) ?_
          exact fun s height rest rest' hrest => ih fuel' depth negated hrest
        · rw [hname, hname']
          exact .bind_same fun s => ih fuel' depth negated htail
      · next rest =>
        obtain ⟨_, rfl, hrest⟩ := hskip.of_cons
        obtain ⟨rest', rfl, hrest'⟩ := hrest.of_cons
        exact ih fuel' depth negated hrest'
      · next rest =>
        obtain ⟨_, rfl, hrest⟩ := hskip.of_cons
        obtain ⟨rest', rfl, hrest'⟩ := hrest.of_cons
        exact ih fuel' depth negated hrest'
      · next rest =>
        obtain ⟨_, rfl, hrest⟩ := hskip.of_cons
        obtain ⟨rest', rfl, hrest'⟩ := hrest.of_cons
        exact ih fuel' depth negated hrest'
      · next hnil hclose hopen hboth hminus hxor =>
        cases ds with
        | nil => exact (hnil rfl).elim
        | cons c tail =>
          obtain ⟨tail', hds', htail⟩ := hskip.of_cons
          have hclose' := hskip.not_cons (by decide) hclose
          have hopen' := hskip.not_cons (by decide) hopen
          have hboth' := hskip.not_pair (by decide) (by decide) hboth
          have hminus' := hskip.not_pair (by decide) (by decide) hminus
          have hxor' := hskip.not_pair (by decide) (by decide) hxor
          subst hds'
          simp only
          refine .bind_value (consistent_classItem hskip) ?_
          exact fun o rest rest' hrest => ih fuel' depth negated hrest

theorem consistent_bracket (h : WithParen cs cs') :
    Consistent SameValues (bracket f cs) (bracket f cs') := by
  have hopen := sameValues_openClass (f := f) h
  unfold bracket
  generalize openClass f cs = x at hopen ⊢
  generalize openClass f cs' = y at hopen ⊢
  obtain ⟨_, _, rest⟩ := x
  obtain ⟨negated, o, rest'⟩ := y
  obtain ⟨rfl, rfl, hrest⟩ := hopen
  exact consistent_classBody _ _ 1 negated hrest

end RollCall.Regex
