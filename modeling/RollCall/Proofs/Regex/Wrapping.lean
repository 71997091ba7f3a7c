import RollCall.Proofs.Regex.Parentheses.Classes
import RollCall.Proofs.Regex.Parentheses.Groups
import RollCall.Proofs.Regex.Renumbering

/-! Reading a pattern as the inside of a group. Each step that reads the pattern is taken inside the
group as well, one level deeper, with the groups numbered from a later number on; where the pattern
ends, the closing parenthesis of the group is read. -/
namespace RollCall.Regex

variable {d : Nat} {f : Flags} {cs cs' : List Char}

/-- What is known when `d` groups more have been opened before. -/
def Reading.opened (d : Nat) (r : Reading) : Reading := { r with groups := r.groups + d }

/-- The part that was read is the same inside, up to the numbers of its groups. At depth 0 it is the
whole pattern, and its group ends with it. -/
structure Inside (d depth : Nat) (x y : Part × Reading × List Char) : Prop where
  part : y.1 = x.1.renumbered d
  reading : y.2.1 = x.2.1.opened d
  rest : WithParen x.2.2 y.2.2
  ends : depth = 0 → y.2.2 = []

theorem consistent_repeatLast (parts : List Part) (min : Nat) (max : Option Nat) (greedy : Bool) :
    Consistent (fun x y => y = x.map (Part.renumbered d)) (repeatLast f parts min max greedy)
      (repeatLast f (parts.map (Part.renumbered d)) min max greedy) := by
  intro x y hx hy
  rw [repeatLast_renumbered, hx] at hy
  exact (Except.ok.inj hy).symm

/-- What the rest of a pattern does with so much fuel, it does inside a group as well. -/
def StepsInside (d fuel fuel' : Nat) : Prop :=
  ∀ (depth : Nat) (r : Reading) (earlier parts : List Part) (cs cs' : List Char),
    WithParen cs cs' →
      Consistent (Inside d depth) (branches fuel depth r earlier parts cs)
        (branches fuel' (depth + 1) (r.opened d) (earlier.map (Part.renumbered d))
          (parts.map (Part.renumbered d)) cs')

/-- The group inside may fail because it is nested too deep, which the pattern is not. -/
theorem consistent_nested {α β : Type} {R : α → β → Prop} {depth : Nat}
    {x : Except PatternError α} {y : Except PatternError β} (h : Consistent R x y) :
    Consistent R (if nestLimit < depth then .error .malformed else x)
      (if nestLimit < depth + 1 then .error .malformed else y) := by
  split
  · exact .error
  · split
    · exact .error_right
    · exact h

section Steps

variable {fuel fuel' depth : Nat} {r : Reading} {earlier parts : List Part}

theorem consistent_operator (hsteps : StepsInside d fuel fuel') (h : WithParen cs cs') (min : Nat)
    (max : Option Nat) :
    Consistent (Inside d depth)
      (do
        let (greedy, rest) := greedyMark cs
        branches fuel depth r earlier (← repeatLast f parts min max greedy) rest)
      (do
        let (greedy, rest) := greedyMark cs'
        branches fuel' (depth + 1) (r.opened d) (earlier.map (Part.renumbered d))
          (← repeatLast f (parts.map (Part.renumbered d)) min max greedy) rest) := by
  have hsame := sameValue_greedyMark h
  generalize greedyMark cs = x at hsame ⊢
  generalize greedyMark cs' = y at hsame ⊢
  obtain ⟨_, rest⟩ := x
  obtain ⟨greedy, rest'⟩ := y
  obtain ⟨rfl, hrest⟩ := hsame
  refine (consistent_repeatLast parts min max greedy).bind ?_
  rintro more _ rfl
  exact hsteps depth r earlier more rest rest' hrest

/-- A part without groups is the same part inside. -/
theorem consistent_part (hsteps : StepsInside d fuel fuel') {p : Part} (hp : p.renumbered d = p)
    (h : WithParen cs cs') :
    Consistent (Inside d depth) (branches fuel depth r earlier (p :: parts) cs)
      (branches fuel' (depth + 1) (r.opened d) (earlier.map (Part.renumbered d))
        (p :: parts.map (Part.renumbered d)) cs') := by
  have hpart := hsteps depth r earlier (p :: parts) cs cs' h
  rwa [List.map_cons, hp] at hpart

theorem consistent_class (hsteps : StepsInside d fuel fuel') (h : WithParen cs cs') :
    Consistent (Inside d depth)
      (do
        let (s, height, rest) ← bracket f cs
        branches fuel depth r earlier (⟨.ofSet s, height, true⟩ :: parts) rest)
      (do
        let (s, height, rest) ← bracket f cs'
        branches fuel' (depth + 1) (r.opened d) (earlier.map (Part.renumbered d))
          (⟨.ofSet s, height, true⟩ :: parts.map (Part.renumbered d)) rest) := by
  refine .bind_values (consistent_bracket h) fun s height rest rest' hrest => ?_
  exact consistent_part hsteps (congrArg (Part.mk · height true) (Expr.ofSet_renumbered s)) hrest

theorem consistent_primitive (hsteps : StepsInside d fuel fuel') (h : WithParen cs cs') :
    Consistent (Inside d depth)
      (do
        let (p, rest) ← primitivePart f cs
        branches fuel depth r earlier (p :: parts) rest)
      (do
        let (p, rest) ← primitivePart f cs'
        branches fuel' (depth + 1) (r.opened d) (earlier.map (Part.renumbered d))
          (p :: parts.map (Part.renumbered d)) rest) := by
  have hprimitive : Consistent (fun x y => SameValue x y ∧ x.1.renumbered d = x.1)
      (primitivePart f cs) (primitivePart f cs') :=
    fun x y hx hy => ⟨consistent_primitivePart h hx hy, primitivePart_renumbered hx⟩
  refine hprimitive.bind ?_
  rintro ⟨_, rest⟩ ⟨p, rest'⟩ ⟨⟨rfl, hrest⟩, hp⟩
  exact consistent_part hsteps hp hrest

/-- The branches behind the opening of a group. -/
def groupOpened (fuel depth : Nat) (r : Reading) (earlier parts : List Part)
    (opened : Opening × List Char) : Except PatternError (Part × Reading × List Char) :=
  match opened with
  | (.flags g, rest) =>
    branches fuel depth { r with flags := g } earlier (⟨.empty, 0, false⟩ :: parts) rest
  | (.plain g, rest) => do
    let (body, inner, rest) ← branches fuel (depth + 1) { r with flags := g } [] [] rest
    branches fuel depth { inner with flags := r.flags } earlier
      (⟨body.expr, body.height + 1, true⟩ :: parts) rest
  | (.capture name, rest) => do
    if (match name with | some n => r.names.contains n | none => false) then .error .malformed
    let (body, inner, rest) ←
      branches fuel (depth + 1)
        { r with groups := r.groups + 1, names := name.toList ++ r.names } [] [] rest
    branches fuel depth { inner with flags := r.flags } earlier
      (⟨.group (r.groups + 1) body.expr, body.height + 1, true⟩ :: parts) rest

theorem branches_group {rest : List Char} (hskip : r.flags.skip cs = '(' :: rest) :
    branches (fuel + 1) depth r earlier parts cs =
      if nestLimit < depth then .error .malformed
      else (opening r.flags rest).bind (groupOpened fuel depth r earlier parts) := by
  rw [branches]
  dsimp only
  rw [hskip]
  rfl

theorem consistent_groupOpened (hsteps : StepsInside d fuel fuel') (h : WithParen cs cs')
    (o : Opening) :
    Consistent (Inside d depth) (groupOpened fuel depth r earlier parts (o, cs))
      (groupOpened fuel' (depth + 1) (r.opened d) (earlier.map (Part.renumbered d))
        (parts.map (Part.renumbered d)) (o, cs')) := by
  cases o with
  | flags g =>
    exact hsteps depth { r with flags := g } earlier (⟨.empty, 0, false⟩ :: parts) cs cs' h
  | plain g =>
    refine (hsteps (depth + 1) { r with flags := g } [] [] cs cs' h).bind ?_
    rintro ⟨body, inner, rest⟩ ⟨_, _, rest'⟩ ⟨rfl, rfl, hrest, -⟩
    exact hsteps depth { inner with flags := r.flags } earlier
      (⟨body.expr, body.height + 1, true⟩ :: parts) rest rest' hrest
  | capture name =>
    refine .check ?_
    have hindex : (r.opened d).groups + 1 = r.groups + 1 + d := Nat.add_right_comm _ _ _
    rw [hindex]
    refine (hsteps (depth + 1)
      { r with groups := r.groups + 1, names := name.toList ++ r.names } [] [] cs cs' h).bind ?_
    rintro ⟨body, inner, rest⟩ ⟨_, _, rest'⟩ ⟨rfl, rfl, hrest, -⟩
    exact hsteps depth { inner with flags := r.flags } earlier
      (⟨.group (r.groups + 1) body.expr, body.height + 1, true⟩ :: parts) rest rest' hrest

/-- Where the pattern or a group of it ends, all of its alternatives are put together. -/
theorem choice_sequence_renumbered (earlier parts : List Part) :
    choice (sequence (parts.map (Part.renumbered d)) :: earlier.map (Part.renumbered d)) =
      (choice (sequence parts :: earlier)).renumbered d := by
  rw [← sequence_renumbered, ← List.map_cons, choice_renumbered]

end Steps

/-- By induction on the fuel of the pattern: each step is one step inside the group. -/
theorem stepsInside (d fuel fuel' : Nat) : StepsInside d fuel fuel' := by
  induction fuel generalizing fuel' with
  | zero => exact fun _ _ _ _ _ _ _ => .error
  | succ fuel ih =>
    cases fuel' with
    | zero => exact fun _ _ _ _ _ _ _ => .error_right
    | succ fuel' =>
      intro depth r earlier parts cs cs' h
      have hsteps := ih fuel'
      have hskip := h.skip r.flags
      have hflags : (r.opened d).flags = r.flags := rfl
      by_cases hgroup : ∃ rest, r.flags.skip cs = '(' :: rest
      · obtain ⟨rest, hds⟩ := hgroup
        rw [hds] at hskip
        obtain ⟨rest', hds', hrest⟩ := hskip.of_cons
        rw [branches_group hds, branches_group (r := r.opened d) hds']
        exact consistent_nested (.bind_value (consistent_opening hrest) fun o _ _ hrest =>
          consistent_groupOpened hsteps hrest o)
      rw [branches, branches, hflags]
      dsimp only
      generalize r.flags.skip cs = ds at hgroup hskip ⊢
      generalize r.flags.skip cs' = ds' at hskip ⊢
      split
      -- The text ends. Behind a comment, the parenthesis of the group is lost.
      · split
        · rcases hskip.of_nil with rfl | rfl
          · rw [choice_sequence_renumbered]
            exact .ok ⟨rfl, rfl, .commented, fun _ => rfl⟩
          · exact .error_right
        · exact .error
      -- A closing parenthesis ends a group of the pattern.
      · next rest =>
        obtain ⟨rest', rfl, hrest⟩ := hskip.of_cons
        split
        · exact .error
        · next hdepth =>
          simp only
          rw [choice_sequence_renumbered]
          exact .ok ⟨rfl, rfl, hrest, fun h => (hdepth h).elim⟩
      -- A bar ends a branch.
      · next rest =>
        obtain ⟨rest', rfl, hrest⟩ := hskip.of_cons
        simp only
        rw [← sequence_renumbered]
        exact hsteps depth r (sequence parts :: earlier) [] rest rest' hrest
      · next rest => exact (hgroup ⟨rest, rfl⟩).elim
      · obtain ⟨rest', rfl, hrest⟩ := hskip.of_cons
        exact consistent_class hsteps hrest
      -- The four operators.
      · obtain ⟨rest', rfl, hrest⟩ := hskip.of_cons
        exact consistent_operator hsteps hrest 0 (some 1)
      · obtain ⟨rest', rfl, hrest⟩ := hskip.of_cons
        exact consistent_operator hsteps hrest 0 none
      · obtain ⟨rest', rfl, hrest⟩ := hskip.of_cons
        exact consistent_operator hsteps hrest 1 none
      · obtain ⟨rest', rfl, hrest⟩ := hskip.of_cons
        refine .bind_values (consistent_bounds hrest) fun min max rest rest' hrest => ?_
        exact consistent_operator hsteps (hrest.skip r.flags) min max
      -- Any other character, which is none of those above inside either.
      · next hnil hclose hbar hopen hbracket hquestion hstar hplus hbrace =>
        cases ds with
        | nil => exact (hnil rfl).elim
        | cons c tail =>
          obtain ⟨tail', hds', htail⟩ := hskip.of_cons
          have hbar' := hskip.not_cons (by decide) hbar
          have hopen' := hskip.not_cons (by decide) hopen
          have hbracket' := hskip.not_cons (by decide) hbracket
          have hquestion' := hskip.not_cons (by decide) hquestion
          have hstar' := hskip.not_cons (by decide) hstar
          have hplus' := hskip.not_cons (by decide) hplus
          have hbrace' := hskip.not_cons (by decide) hbrace
          have hclose' : ∀ rest, c :: tail' = ')' :: rest → False := fun rest h =>
            hclose tail (congrArg (· :: tail) (List.cons.inj h).1)
          subst hds'
          simp only
          exact consistent_primitive hsteps hskip

section Whole

variable {e e' : Expr}

theorem Flags.skip_nil (f : Flags) : f.skip [] = [] := by
  unfold Flags.skip
  split <;> rfl

theorem branches_end (fuel : Nat) (r : Reading) (p : Part) :
    branches (fuel + 1) 0 r [] [p] [] = .ok (p, r, []) := by
  rw [branches]
  dsimp only
  rw [Flags.skip_nil]
  rfl

theorem parse_ok (h : parse cs = .ok e) :
    ∃ whole r rest, branches (cs.length + 1) 0 {} [] [] cs = .ok (whole, r, rest) ∧
      whole.expr = e := by
  obtain ⟨⟨whole, r, rest⟩, hbranches, he⟩ := bind_ok.mp h
  dsimp only at he
  split at he
  · contradiction
  · exact ⟨whole, r, rest, hbranches, Except.ok.inj he⟩

/-- There is nothing that a pattern could repeat at its beginning. -/
theorem parse_question_ne_ok : parse ('?' :: cs) ≠ .ok e := by
  have herror : parse ('?' :: cs) = .error .malformed := rfl
  rw [herror]
  exact nofun

theorem opening_capture (hquestion : ∀ rest, Flags.skip f cs = '?' :: rest → False) :
    opening f cs = .ok (.capture none, f.skip cs) := by
  unfold opening
  generalize f.skip cs = ds at hquestion ⊢
  split
  case h_8 => rfl
  all_goals exact (hquestion _ rfl).elim

theorem opening_of_parse (h : parse cs = .ok e) :
    opening {} (cs ++ [')']) = .ok (.capture none, cs ++ [')']) := by
  refine opening_capture fun rest hds => ?_
  cases cs with
  | nil => exact absurd (List.cons.inj hds).1 (by decide)
  | cons c cs =>
    obtain rfl : c = '?' := (List.cons.inj hds).1
    exact parse_question_ne_ok h

/-- What is read of a group around a pattern is the pattern, and all of it. -/
theorem inside_of_parse {fuel : Nat} {body : Part} {inner : Reading} {tail : List Char}
    (h : parse cs = .ok e)
    (hbody : branches fuel 1 (Reading.opened d {}) [] [] (cs ++ [')']) = .ok (body, inner, tail)) :
    body.expr = e.renumbered d ∧ tail = [] := by
  obtain ⟨whole, r, rest, hwhole, rfl⟩ := parse_ok h
  have hinside := stepsInside d _ _ 0 {} [] [] cs (cs ++ [')']) (.stands cs) hwhole hbody
  exact ⟨congrArg Part.expr hinside.part, hinside.ends rfl⟩

/-- A pattern in parentheses is read as a group of what the pattern is read as. -/
theorem parse_captured (h : parse cs = .ok e) (h' : parse ('(' :: (cs ++ [')'])) = .ok e') :
    e' = .group 1 (e.renumbered 1) := by
  obtain ⟨whole, r, rest, hwhole, rfl⟩ := parse_ok h'
  rw [branches_group rfl, if_neg (Nat.not_lt_zero _), opening_of_parse h] at hwhole
  replace hwhole : groupOpened _ 0 {} [] [] (.capture none, cs ++ [')']) = _ := hwhole
  obtain ⟨⟨body, inner, tail⟩, hbody, hend⟩ := bind_ok.mp hwhole
  obtain ⟨hexpr, rfl⟩ := @inside_of_parse 1 cs e _ body inner tail h hbody
  dsimp only at hend
  rw [List.length_cons, branches_end, hexpr] at hend
  obtain ⟨rfl, -⟩ := Prod.mk.inj (Except.ok.inj hend)
  rfl

/-- A pattern in a group that is not captured is read as it is alone. -/
theorem parse_uncaptured (h : parse cs = .ok e)
    (h' : parse ('(' :: '?' :: ':' :: (cs ++ [')'])) = .ok e') : e' = e := by
  obtain ⟨whole, r, rest, hwhole, rfl⟩ := parse_ok h'
  have hopening : opening {} ('?' :: ':' :: (cs ++ [')'])) = .ok (.plain {}, cs ++ [')']) := rfl
  rw [branches_group rfl, if_neg (Nat.not_lt_zero _), hopening] at hwhole
  replace hwhole : groupOpened _ 0 {} [] [] (.plain {}, cs ++ [')']) = _ := hwhole
  obtain ⟨⟨body, inner, tail⟩, hbody, hend⟩ := bind_ok.mp hwhole
  obtain ⟨hexpr, rfl⟩ := @inside_of_parse 0 cs e _ body inner tail h hbody
  dsimp only at hend
  rw [List.length_cons, branches_end, hexpr] at hend
  obtain ⟨rfl, -⟩ := Prod.mk.inj (Except.ok.inj hend)
  exact e.renumbered_zero

end Whole

end RollCall.Regex
