import Mathlib.Data.List.Basic
import RollCall.Proofs.Except
import RollCall.Regex.Parser

/-! Numbering the groups of an expression from a later number on. Everything that builds expressions
commutes with it, also where expressions are compared, since no two of them become equal. -/
namespace RollCall.Regex

variable {d : Nat}

namespace Expr

/-- The expression with `d` added to the number of every group. -/
def renumbered (d : Nat) : Expr → Expr
  | .empty => .empty
  | .text cs => .text cs
  | .set s => .set s
  | .look l => .look l
  | .group index body => .group (index + d) (body.renumbered d)
  | .repetition body min max greedy => .repetition (body.renumbered d) min max greedy
  | .seq a b => .seq (a.renumbered d) (b.renumbered d)
  | .alt a b => .alt (a.renumbered d) (b.renumbered d)

variable {e e' : Expr}

theorem renumbered_zero (e : Expr) : e.renumbered 0 = e := by
  induction e with
  | empty | text | set | look => rfl
  | group index body ih => exact congrArg (Expr.group index) ih
  | repetition body min max greedy ih => rw [renumbered, ih]
  | seq a b iha ihb => rw [renumbered, iha, ihb]
  | alt a b iha ihb => rw [renumbered, iha, ihb]

theorem renumbered_eq_self (h : e.hasGroup = false) : e.renumbered d = e := by
  induction e with
  | empty | text | set | look => rfl
  | group => contradiction
  | repetition body min max greedy ih => rw [renumbered, ih h]
  | seq a b iha ihb =>
    rw [hasGroup, Bool.or_eq_false_iff] at h
    rw [renumbered, iha h.1, ihb h.2]
  | alt a b iha ihb =>
    rw [hasGroup, Bool.or_eq_false_iff] at h
    rw [renumbered, iha h.1, ihb h.2]

theorem renumbered_injective (d : Nat) : Function.Injective (renumbered d) := by
  intro e e' h
  induction e generalizing e' with
  | empty | text | set | look => cases e' <;> first | exact h | contradiction
  | group index body ih =>
    cases e' with
    | group =>
      obtain ⟨hindex, hbody⟩ := Expr.group.inj h
      rw [Nat.add_right_cancel hindex, ih hbody]
    | _ => contradiction
  | repetition body min max greedy ih =>
    cases e' with
    | repetition =>
      obtain ⟨hbody, rfl, rfl, rfl⟩ := Expr.repetition.inj h
      rw [ih hbody]
    | _ => contradiction
  | seq a b iha ihb =>
    cases e' with
    | seq =>
      obtain ⟨ha, hb⟩ := Expr.seq.inj h
      rw [iha ha, ihb hb]
    | _ => contradiction
  | alt a b iha ihb =>
    cases e' with
    | alt =>
      obtain ⟨ha, hb⟩ := Expr.alt.inj h
      rw [iha ha, ihb hb]
    | _ => contradiction

@[simp] theorem onlyEmpty_renumbered (e : Expr) :
    (e.renumbered d).onlyEmpty = e.onlyEmpty := by
  induction e <;> simp_all [renumbered, onlyEmpty]

@[simp] theorem nodes_renumbered (e : Expr) : (e.renumbered d).nodes = e.nodes := by
  induction e <;> simp_all [renumbered, nodes]

@[simp] theorem factors_renumbered (e : Expr) :
    (e.renumbered d).factors = e.factors.map (renumbered d) := by
  induction e <;> simp_all [renumbered, factors]

@[simp] theorem alternatives_renumbered (e : Expr) :
    (e.renumbered d).alternatives = e.alternatives.map (renumbered d) := by
  induction e <;> simp_all [renumbered, alternatives]

@[simp] theorem charSet?_renumbered (e : Expr) : (e.renumbered d).charSet? = e.charSet? := by
  cases e <;> rfl

theorem times_renumbered (e : Expr) (min : Nat) (max : Option Nat) (greedy : Bool) :
    (e.times min max greedy).renumbered d = (e.renumbered d).times min max greedy := by
  unfold times
  rw [onlyEmpty_renumbered]
  dsimp only
  split_ifs <;> rfl

theorem ofSet_renumbered (s : CharSet) : (ofSet s).renumbered d = ofSet s := by
  unfold ofSet
  split <;> rfl

theorem seqOf_renumbered (es : List Expr) :
    (seqOf es).renumbered d = seqOf (es.map (renumbered d)) := by
  induction es with
  | nil => rfl
  | cons e rest ih =>
    cases rest with
    | nil => rfl
    | cons => exact congrArg (Expr.seq (e.renumbered d)) ih

theorem altOf_renumbered (es : List Expr) :
    (altOf es).renumbered d = altOf (es.map (renumbered d)) := by
  induction es with
  | nil => rfl
  | cons e rest ih =>
    cases rest with
    | nil => rfl
    | cons => exact congrArg (Expr.alt (e.renumbered d)) ih

theorem map_joinText (e : Expr) (rest : List Expr) :
    (joinText e rest).map (renumbered d) =
      joinText (e.renumbered d) (rest.map (renumbered d)) := by
  cases e with
  | text cs =>
    cases rest with
    | nil => rfl
    | cons e rest => cases e <;> rfl
  | _ => rfl

theorem map_foldr_joinText (es : List Expr) :
    (es.foldr joinText []).map (renumbered d) = (es.map (renumbered d)).foldr joinText [] := by
  induction es with
  | nil => rfl
  | cons e es ih => rw [List.foldr_cons, map_joinText, ih, List.map_cons, List.foldr_cons]

theorem concat_renumbered (es : List Expr) :
    (concat es).renumbered d = concat (es.map (renumbered d)) := by
  rw [concat, concat, seqOf_renumbered, map_foldr_joinText, List.map_flatMap, List.flatMap_map]
  simp only [factors_renumbered]

theorem map_commonStart (as bs : List Expr) :
    (commonStart as bs).map (renumbered d) =
      commonStart (as.map (renumbered d)) (bs.map (renumbered d)) := by
  induction as generalizing bs with
  | nil => rfl
  | cons a as ih =>
    cases bs with
    | nil => rfl
    | cons b bs =>
      rw [List.map_cons, List.map_cons, commonStart, commonStart]
      simp only [(renumbered_injective d).eq_iff]
      split
      · rw [List.map_cons, ih]
      · rfl

theorem map_foldl_commonStart (first : List Expr) (rest : List (List Expr)) :
    (rest.foldl commonStart first).map (renumbered d) =
      (rest.map (List.map (renumbered d))).foldl commonStart (first.map (renumbered d)) := by
  induction rest generalizing first with
  | nil => rfl
  | cons es rest ih => rw [List.foldl_cons, ih, map_commonStart, List.map_cons, List.foldl_cons]

def isSeq : Expr → Bool
  | .seq _ _ => true
  | _ => false

theorem sharedStart_eq_isSeq (es : List Expr) :
    sharedStart es =
      if es.all isSeq then
        match es.map factors with
        | [] => []
        | first :: rest => rest.foldl commonStart first
      else [] := rfl

theorem map_sharedStart (es : List Expr) :
    (sharedStart es).map (renumbered d) = sharedStart (es.map (renumbered d)) := by
  have hseq : isSeq ∘ renumbered d = isSeq := by
    funext e
    cases e <;> rfl
  rw [sharedStart_eq_isSeq, sharedStart_eq_isSeq, List.all_map, hseq]
  split
  · cases es with
    | nil => rfl
    | cons e es =>
      simp only [List.map_cons, map_foldl_commonStart, factors_renumbered, List.map_map,
        Function.comp_def]
  · rfl

theorem alternationWithin_renumbered (fuel : Nat) (es : List Expr) :
    (alternationWithin fuel es).renumbered d =
      alternationWithin fuel (es.map (renumbered d)) := by
  induction fuel generalizing es with
  | zero => exact altOf_renumbered es
  | succ fuel ih =>
    have halternatives : (es.map (renumbered d)).flatMap alternatives =
        (es.flatMap alternatives).map (renumbered d) := by
      rw [List.map_flatMap, List.flatMap_map]
      simp only [alternatives_renumbered]
    rw [alternationWithin, alternationWithin, halternatives]
    generalize es.flatMap alternatives = es
    have hsets : (es.map (renumbered d)).mapM charSet? = es.mapM charSet? := by
      rw [List.mapM_map]
      simp only [Function.comp_def, charSet?_renumbered]
    have hrests (n : Nat) :
        (es.map (renumbered d)).map (fun e => concat (e.factors.drop n)) =
          (es.map fun e => concat (e.factors.drop n)).map (renumbered d) := by
      simp only [List.map_map, Function.comp_def, concat_renumbered, factors_renumbered,
        List.map_drop]
    dsimp only
    rw [List.length_map, hsets]
    split
    · exact altOf_renumbered es
    · cases es.mapM charSet? with
      | some sets => exact ofSet_renumbered _
      | none =>
        rw [← map_sharedStart, List.isEmpty_map, List.length_map]
        dsimp only
        split
        · exact altOf_renumbered es
        · rw [concat_renumbered, List.map_append, List.map_singleton, ih, hrests]

theorem alternation_renumbered (es : List Expr) :
    (alternation es).renumbered d = alternation (es.map (renumbered d)) := by
  have hnodes : (es.map (renumbered d)).foldr (·.nodes + ·) 1 = es.foldr (·.nodes + ·) 1 := by
    rw [List.foldr_map]
    simp only [nodes_renumbered]
  rw [alternation, alternation, alternationWithin_renumbered, hnodes]

end Expr

/-- The part with the groups of its expression numbered from a later number on. -/
def Part.renumbered (d : Nat) (p : Part) : Part := { p with expr := p.expr.renumbered d }

theorem map_expr_renumbered (parts : List Part) :
    ((parts.map (Part.renumbered d)).reverse.map (·.expr)) =
      (parts.reverse.map (·.expr)).map (Expr.renumbered d) := by
  rw [← List.map_reverse, List.map_map, List.map_map]
  rfl

theorem foldl_height_renumbered (parts : List Part) (height : Nat) :
    (parts.map (Part.renumbered d)).foldl (fun h p => max h p.height) height =
      parts.foldl (fun h p => max h p.height) height := by
  rw [List.foldl_map]
  rfl

theorem sequence_renumbered (parts : List Part) :
    (sequence parts).renumbered d = sequence (parts.map (Part.renumbered d)) := by
  match parts with
  | [] => rfl
  | [p] => rfl
  | p :: q :: rest =>
    have hexpr := Expr.concat_renumbered (d := d) ((p :: q :: rest).reverse.map (·.expr))
    rw [← map_expr_renumbered] at hexpr
    have hheight := foldl_height_renumbered (d := d) (p :: q :: rest) 0
    exact congrArg₂ (fun e height => Part.mk e (height + 1) true) hexpr hheight.symm

theorem choice_renumbered (branches : List Part) :
    (choice branches).renumbered d = choice (branches.map (Part.renumbered d)) := by
  match branches with
  | [] => rfl
  | [p] => rfl
  | p :: q :: rest =>
    have hexpr := Expr.alternation_renumbered (d := d) ((p :: q :: rest).reverse.map (·.expr))
    rw [← map_expr_renumbered] at hexpr
    have hheight := foldl_height_renumbered (d := d) (p :: q :: rest) 0
    exact congrArg₂ (fun e height => Part.mk e (height + 1) true) hexpr hheight.symm

theorem repeatLast_renumbered (f : Flags) (parts : List Part) (min : Nat) (max : Option Nat)
    (greedy : Bool) :
    repeatLast f (parts.map (Part.renumbered d)) min max greedy =
      (repeatLast f parts min max greedy).map (List.map (Part.renumbered d)) := by
  cases parts with
  | nil => rfl
  | cons p rest =>
    rw [List.map_cons, repeatLast, repeatLast, Part.renumbered]
    dsimp only
    split
    · rw [← Expr.times_renumbered]
      rfl
    · rfl

theorem Flags.literal_renumbered (f : Flags) (c : Char) :
    (f.literal c).renumbered d = f.literal c := by
  unfold Flags.literal
  split_ifs <;> first | rfl | exact Expr.ofSet_renumbered _

theorem Flags.dot_renumbered {f : Flags} {e : Expr} (h : f.dot = .ok e) :
    e.renumbered d = e := by
  unfold Flags.dot at h
  split_ifs at h <;> first | contradiction | (cases h; rfl)

/-- A part that is no group has none inside. -/
theorem primitivePart_renumbered {f : Flags} {cs rest : List Char} {p : Part}
    (h : primitivePart f cs = .ok (p, rest)) : p.renumbered d = p := by
  unfold primitivePart at h
  extract_lets finish at h
  have hfinish {x : Except PatternError (Primitive × List Char)}
      (hx : x.bind finish = .ok (p, rest)) : p.renumbered d = p := by
    obtain ⟨⟨primitive, tail⟩, -, hp⟩ := bind_ok.mp hx
    cases primitive with
    | literal c isByte =>
      dsimp only [finish] at hp
      split at hp
      · contradiction
      · obtain ⟨rfl, -⟩ := Prod.mk.inj (Except.ok.inj hp)
        exact congrArg (Part.mk · 0 true) (f.literal_renumbered c)
    | set s =>
      obtain ⟨rfl, -⟩ := Prod.mk.inj (Except.ok.inj hp)
      exact congrArg (Part.mk · 0 true) (Expr.ofSet_renumbered s)
    | look l =>
      obtain ⟨rfl, -⟩ := Prod.mk.inj (Except.ok.inj hp)
      rfl
    | dot =>
      obtain ⟨e, he, hp⟩ := bind_ok.mp hp
      obtain ⟨rfl, -⟩ := Prod.mk.inj (Except.ok.inj hp)
      exact congrArg (Part.mk · 0 true) (Flags.dot_renumbered he)
  split at h <;> exact hfinish h

end RollCall.Regex
