import Mathlib.Data.List.Basic
import Mathlib.Order.Lattice
import RollCall.Proofs.Except
import RollCall.Regex.Parser

/-! How groups are numbered in a pattern that was read. Groups are numbered by their opening, so that
a group has a greater number than those around it; joining texts and setting apart what alternatives
share changes nothing about it. -/
namespace RollCall.Regex

namespace Expr

/-- Groups are numbered above the groups around them, of which `outer` is the innermost, and no
repetition asks for more rounds than it allows. -/
def Proper : (outer : Nat) → Expr → Prop
  | _, .empty | _, .text _ | _, .set _ | _, .look _ => True
  | outer, .group index body => outer < index ∧ Proper index body
  | outer, .repetition body min max _ => (∀ m ∈ max, min ≤ m) ∧ Proper outer body
  | outer, .seq a b | outer, .alt a b => Proper outer a ∧ Proper outer b

variable {e : Expr} {es : List Expr} {outer : Nat}

theorem proper_ofSet (s : CharSet) : (ofSet s).Proper outer := by
  unfold ofSet
  split <;> trivial

/-- At most one round of what matches only the empty text is asked for as well as allowed. -/
theorem Proper.times (h : e.Proper outer) {min : Nat} {max : Option Nat} (hle : ∀ m ∈ max, min ≤ m)
    (greedy : Bool) : (e.times min max greedy).Proper outer := by
  unfold Expr.times
  split
  next min' max' hbounds =>
  have hle' : ∀ m ∈ max', min' ≤ m := by
    split at hbounds
    · obtain ⟨rfl, rfl⟩ := Prod.mk.inj hbounds
      intro m hm
      obtain rfl := Option.some.inj hm
      cases max with
      | none => exact Nat.min_le_right min 1
      | some m => exact le_min ((Nat.min_le_left min 1).trans (hle m rfl)) (Nat.min_le_right min 1)
    · obtain ⟨rfl, rfl⟩ := Prod.mk.inj hbounds
      exact hle
  split_ifs
  · trivial
  · exact h
  · exact ⟨hle', h⟩

theorem Proper.factors (h : e.Proper outer) : ∀ f ∈ e.factors, f.Proper outer := by
  induction e with
  | empty => exact nofun
  | seq a b iha ihb =>
    rw [Expr.factors, List.forall_mem_cons]
    exact ⟨h.1, ihb h.2⟩
  | _ => exact List.forall_mem_singleton.mpr h

theorem Proper.alternatives (h : e.Proper outer) : ∀ f ∈ e.alternatives, f.Proper outer := by
  induction e with
  | alt a b iha ihb =>
    rw [Expr.alternatives, List.forall_mem_cons]
    exact ⟨h.1, ihb h.2⟩
  | _ => exact List.forall_mem_singleton.mpr h

theorem proper_joinText (h : ∀ f ∈ e :: es, f.Proper outer) :
    ∀ f ∈ joinText e es, f.Proper outer := by
  unfold joinText
  split
  · exact List.forall_mem_cons.mpr
      ⟨trivial, (List.forall_mem_cons.mp (List.forall_mem_cons.mp h).2).2⟩
  · exact h

theorem proper_seqOf (h : ∀ e ∈ es, e.Proper outer) : (seqOf es).Proper outer := by
  induction es with
  | nil => trivial
  | cons e es ih =>
    obtain ⟨he, hes⟩ := List.forall_mem_cons.mp h
    cases es with
    | nil => exact he
    | cons e' es => exact ⟨he, ih hes⟩

theorem proper_altOf (h : ∀ e ∈ es, e.Proper outer) : (altOf es).Proper outer := by
  induction es with
  | nil => trivial
  | cons e es ih =>
    obtain ⟨he, hes⟩ := List.forall_mem_cons.mp h
    cases es with
    | nil => exact he
    | cons e' es => exact ⟨he, ih hes⟩

theorem proper_concat (h : ∀ e ∈ es, e.Proper outer) : (concat es).Proper outer := by
  apply proper_seqOf
  have hfactors : ∀ f ∈ es.flatMap Expr.factors, f.Proper outer :=
    List.forall_mem_flatMap.mpr fun e he => (h e he).factors
  generalize es.flatMap Expr.factors = parts at hfactors
  induction parts with
  | nil => exact nofun
  | cons e parts ih =>
    obtain ⟨he, hparts⟩ := List.forall_mem_cons.mp hfactors
    exact proper_joinText (List.forall_mem_cons.mpr ⟨he, ih hparts⟩)

theorem commonStart_subset (as bs : List Expr) : commonStart as bs ⊆ as := by
  induction as generalizing bs with
  | nil => exact List.nil_subset _
  | cons a as ih =>
    cases bs with
    | nil => exact List.nil_subset _
    | cons b bs =>
      rw [commonStart]
      split
      · exact List.cons_subset_cons a (ih bs)
      · exact List.nil_subset _

theorem foldl_commonStart_subset (first : List Expr) (rest : List (List Expr)) :
    rest.foldl commonStart first ⊆ first := by
  induction rest generalizing first with
  | nil => exact List.Subset.refl first
  | cons bs rest ih => exact List.Subset.trans (ih _) (commonStart_subset first bs)

theorem proper_sharedStart (h : ∀ e ∈ es, e.Proper outer) :
    ∀ f ∈ sharedStart es, f.Proper outer := by
  unfold sharedStart
  split
  · cases es with
    | nil => exact nofun
    | cons e es =>
      intro f hf
      exact (h e List.mem_cons_self).factors f (foldl_commonStart_subset _ _ hf)
  · exact nofun

theorem proper_alternationWithin {fuel : Nat} (h : ∀ e ∈ es, e.Proper outer) :
    (alternationWithin fuel es).Proper outer := by
  induction fuel generalizing es with
  | zero => exact proper_altOf h
  | succ fuel ih =>
    have hes : ∀ e ∈ es.flatMap Expr.alternatives, e.Proper outer :=
      List.forall_mem_flatMap.mpr fun e he => (h e he).alternatives
    rw [alternationWithin]
    generalize es.flatMap Expr.alternatives = es at hes ⊢
    dsimp only
    split
    · exact proper_altOf hes
    · split
      · exact proper_ofSet _
      · split
        · exact proper_altOf hes
        · apply proper_concat
          refine List.forall_mem_append.mpr
            ⟨proper_sharedStart hes, List.forall_mem_singleton.mpr (ih ?_)⟩
          refine List.forall_mem_map.mpr fun e he => proper_concat fun f hf => ?_
          exact (hes e he).factors f (List.mem_of_mem_drop hf)

theorem proper_alternation (h : ∀ e ∈ es, e.Proper outer) : (alternation es).Proper outer :=
  proper_alternationWithin h

end Expr

section Parts

variable {p : Part} {parts : List Part} {outer : Nat} {f : Flags} {cs rest : List Char}

theorem proper_sequence (h : ∀ p ∈ parts, p.expr.Proper outer) :
    (sequence parts).expr.Proper outer := by
  unfold sequence
  split
  · trivial
  · exact h _ (List.mem_singleton_self _)
  · refine Expr.proper_concat (List.forall_mem_map.mpr fun p hp => ?_)
    exact h p (List.mem_reverse.mp hp)

theorem proper_choice (h : ∀ p ∈ parts, p.expr.Proper outer) :
    (choice parts).expr.Proper outer := by
  unfold choice
  split
  · exact h _ (List.mem_singleton_self _)
  · refine Expr.proper_alternation (List.forall_mem_map.mpr fun p hp => ?_)
    exact h p (List.mem_reverse.mp hp)

theorem proper_repeatLast {min : Nat} {max : Option Nat} {greedy : Bool} {parts' : List Part}
    (hle : ∀ m ∈ max, min ≤ m) (h : ∀ p ∈ parts, p.expr.Proper outer)
    (hrepeat : repeatLast f parts min max greedy = .ok parts') :
    ∀ p ∈ parts', p.expr.Proper outer := by
  unfold repeatLast at hrepeat
  cases parts with
  | nil => contradiction
  | cons p parts =>
    obtain ⟨hp, hparts⟩ := List.forall_mem_cons.mp h
    dsimp only at hrepeat
    split at hrepeat
    · obtain rfl := Except.ok.inj hrepeat
      exact List.forall_mem_cons.mpr ⟨hp.times hle _, hparts⟩
    · contradiction

/-- The bounds of a counted repetition are in order. -/
theorem min_le_of_bounds {min : Nat} {max : Option Nat}
    (h : bounds f cs = .ok (min, max, rest)) : ∀ m ∈ max, min ≤ m := by
  obtain ⟨⟨count?, rest'⟩, -, h⟩ := bind_ok.mp h
  dsimp only at h
  split at h
  · cases Except.ok.inj h
    exact fun m hm => (Option.some.inj hm).le
  · split at h
    · cases Except.ok.inj h
      exact nofun
    · obtain ⟨⟨count?', rest''⟩, -, h⟩ := bind_ok.mp h
      split at h
      · split at h
        · next hle =>
          cases Except.ok.inj h
          exact fun m hm => Option.some.inj hm ▸ hle
        · contradiction
      · contradiction
  · contradiction

theorem proper_literal (f : Flags) (c : Char) : (f.literal c).Proper outer := by
  unfold Flags.literal
  split_ifs
  · trivial
  · exact Expr.proper_ofSet _
  · trivial
  · exact Expr.proper_ofSet _
  · trivial

theorem proper_dot {e : Expr} (h : f.dot = .ok e) : e.Proper outer := by
  unfold Flags.dot at h
  split_ifs at h <;> exact Except.ok.inj h ▸ trivial

theorem proper_primitivePart (h : primitivePart f cs = .ok (p, rest)) : p.expr.Proper outer := by
  unfold primitivePart at h
  extract_lets finish at h
  have hfinish (x : Primitive × List Char) (hx : finish x = .ok (p, rest)) :
      p.expr.Proper outer := by
    obtain ⟨primitive, rest'⟩ := x
    cases primitive with
    | literal c isByte =>
      dsimp only [finish] at hx
      split at hx
      · contradiction
      · cases Except.ok.inj hx
        exact proper_literal f c
    | set s =>
      cases Except.ok.inj hx
      exact Expr.proper_ofSet s
    | look l =>
      cases Except.ok.inj hx
      trivial
    | dot =>
      obtain ⟨e, he, hx⟩ := bind_ok.mp hx
      cases Except.ok.inj hx
      exact proper_dot he
  split at h
  all_goals
    obtain ⟨x, -, hx⟩ := bind_ok.mp h
    exact hfinish x hx

/-- Groups that are opened from here on have numbers above those of the groups opened so far. -/
theorem proper_branches {fuel depth : Nat} {r r' : Reading} {earlier : List Part}
    (h : branches fuel depth r earlier parts cs = .ok (p, r', rest)) (houter : outer ≤ r.groups)
    (hearlier : ∀ p ∈ earlier, p.expr.Proper outer) (hparts : ∀ p ∈ parts, p.expr.Proper outer) :
    r.groups ≤ r'.groups ∧ p.expr.Proper outer := by
  induction fuel generalizing depth r earlier parts cs p r' rest outer with
  | zero => contradiction
  | succ fuel ih =>
    have hend : (choice (sequence parts :: earlier)).expr.Proper outer :=
      proper_choice (List.forall_mem_cons.mpr ⟨proper_sequence hparts, hearlier⟩)
    have hone : ∀ m ∈ some 1, 0 ≤ m := fun m _ => Nat.zero_le m
    have hmany (min : Nat) : ∀ m ∈ (none : Option Nat), min ≤ m := nofun
    rw [branches] at h
    dsimp only at h
    split at h
    · split at h
      · cases Except.ok.inj h
        exact ⟨Nat.le_refl _, hend⟩
      · contradiction
    · split at h
      · contradiction
      · cases Except.ok.inj h
        exact ⟨Nat.le_refl _, hend⟩
    · exact ih h houter (List.forall_mem_cons.mpr ⟨proper_sequence hparts, hearlier⟩) nofun
    · obtain ⟨-, h⟩ := ok_of_check h
      obtain ⟨⟨opening, rest'⟩, -, h⟩ := bind_ok.mp h
      cases opening with
      | flags g =>
        dsimp only at h
        have hflags : (⟨.empty, 0, false⟩ : Part).expr.Proper outer := trivial
        have hrest := ih h houter hearlier (List.forall_mem_cons.mpr ⟨hflags, hparts⟩)
        exact hrest
      | plain g =>
        obtain ⟨⟨body, r₁, rest₁⟩, hbody, h⟩ := bind_ok.mp h
        obtain ⟨hgroups, hproper⟩ := ih hbody houter nofun nofun
        obtain ⟨hgroups', hproper'⟩ := ih h (houter.trans hgroups) hearlier
          (List.forall_mem_cons.mpr ⟨hproper, hparts⟩)
        exact ⟨hgroups.trans hgroups', hproper'⟩
      | capture name =>
        obtain ⟨-, h⟩ := ok_of_check h
        obtain ⟨⟨body, r₁, rest₁⟩, hbody, h⟩ := bind_ok.mp h
        -- Within the group, every number is above its own, which is above all before it.
        obtain ⟨hgroups, hproper⟩ := ih hbody (Nat.le_refl (r.groups + 1)) nofun nofun
        have hgroup : (Expr.group (r.groups + 1) body.expr).Proper outer :=
          ⟨Nat.lt_succ_of_le houter, hproper⟩
        have hle : r.groups ≤ r₁.groups := (Nat.le_succ r.groups).trans hgroups
        obtain ⟨hgroups', hproper'⟩ := ih h (houter.trans hle) hearlier
          (List.forall_mem_cons.mpr ⟨hgroup, hparts⟩)
        exact ⟨hle.trans hgroups', hproper'⟩
    · obtain ⟨⟨s, height, rest'⟩, -, h⟩ := bind_ok.mp h
      exact ih h houter hearlier (List.forall_mem_cons.mpr ⟨Expr.proper_ofSet s, hparts⟩)
    · obtain ⟨parts', hrepeat, h⟩ := bind_ok.mp h
      exact ih h houter hearlier (proper_repeatLast hone hparts hrepeat)
    · obtain ⟨parts', hrepeat, h⟩ := bind_ok.mp h
      exact ih h houter hearlier (proper_repeatLast (hmany _) hparts hrepeat)
    · obtain ⟨parts', hrepeat, h⟩ := bind_ok.mp h
      exact ih h houter hearlier (proper_repeatLast (hmany _) hparts hrepeat)
    · obtain ⟨⟨min, max, rest'⟩, hbounds, h⟩ := bind_ok.mp h
      obtain ⟨parts', hrepeat, h⟩ := bind_ok.mp h
      exact ih h houter hearlier (proper_repeatLast (min_le_of_bounds hbounds) hparts hrepeat)
    · obtain ⟨⟨part, rest'⟩, hpart, h⟩ := bind_ok.mp h
      exact ih h houter hearlier
        (List.forall_mem_cons.mpr ⟨proper_primitivePart hpart, hparts⟩)

/-- Groups are numbered from 1 on, each above those around it. -/
theorem proper_of_parse {e : Expr} (h : parse cs = .ok e) : e.Proper 0 := by
  obtain ⟨⟨whole, r, rest⟩, hwhole, h⟩ := bind_ok.mp h
  dsimp only at h
  split at h
  · contradiction
  · cases Except.ok.inj h
    exact (proper_branches hwhole (Nat.le_refl 0) nofun nofun).2

end Parts

end RollCall.Regex
