import RollCall.Proofs.Regex.Enclosed
import RollCall.Proofs.Regex.Leftmost
import RollCall.Proofs.Regex.Wrapping

/-! Parentheses around a pattern. A pattern without groups finds the same identifiers as the group of
it, and a group that is not captured makes no difference to any pattern. -/
namespace RollCall.Pattern

open Regex (Expr Match allMatches)

variable {p q : Pattern} {e : Expr} {source source' : String}

theorem identifiers_of_same (hgrouped : q.grouped = p.grouped) (hprogram : q.program = p.program)
    (text : String) : q.identifiers text = p.identifiers text := by
  have hspan : q.identifierSpan = p.identifierSpan := by
    funext m
    rw [identifierSpan, identifierSpan, hgrouped]
  rw [identifiers, identifiers, identifierSpans, identifierSpans, hprogram, hspan]

/-- What is found as the whole match is found as the group of the expression. -/
theorem identifiers_enclosed_program (hgroup : e.hasGroup = false) (hp : p.program = e.program)
    (hpgrouped : p.grouped = false) (hq : q.program = e.enclosed.program)
    (hqgrouped : q.grouped = true) (text : String) :
    q.identifiers text = p.identifiers text := by
  have hspan : q.identifierSpan ∘ Match.whole = p.identifierSpan := by
    funext m
    rw [Function.comp_apply, identifierSpan, identifierSpan, hpgrouped, hqgrouped]
    rfl
  rw [identifiers, identifiers, identifierSpans, identifierSpans, hp, hq,
    Regex.allMatches_enclosed hgroup, List.filterMap_map, hspan]

theorem ofExpr_ok (h : ofExpr source e = .ok p) :
    p.grouped = e.hasGroup ∧ p.program = e.program := by
  unfold ofExpr at h
  split at h
  · contradiction
  · obtain rfl := Except.ok.inj h
    exact ⟨rfl, rfl⟩

/-- Of an expression without groups, the whole matches and the group of it give the same identifiers.
As the source of a pattern goes, this is what parentheses around it come to if it has no groups;
around a pattern of any kind, parentheses that do not capture leave the machine as it is. -/
theorem identifiers_enclosed :
    (∀ (e : Expr) (source source' : String) (p q : Pattern), e.hasGroup = false →
      ofExpr source e = .ok p → ofExpr source' e.enclosed = .ok q →
      q.grouped = true ∧ ∀ text, q.identifiers text = p.identifiers text) ∧
    ∀ (source : String) (p : Pattern), ofSource source = .ok p →
      (p.grouped = false → ∀ q, ofSource ("(" ++ source ++ ")") = .ok q →
        q.grouped = true ∧ ∀ text, q.identifiers text = p.identifiers text) ∧
      ∀ q, ofSource ("(?:" ++ source ++ ")") = .ok q →
        q.grouped = p.grouped ∧ q.program = p.program ∧
          ∀ text, q.identifiers text = p.identifiers text := by
  refine ⟨fun e source source' p q hgroup hp hq => ?_, fun source p hp => ⟨?_, ?_⟩⟩
  · obtain ⟨hpgrouped, hpprogram⟩ := ofExpr_ok hp
    obtain ⟨hqgrouped, hqprogram⟩ := ofExpr_ok hq
    exact ⟨hqgrouped, identifiers_enclosed_program hgroup hpprogram (hpgrouped.trans hgroup)
      hqprogram hqgrouped⟩
  · intro hgrouped q hq
    obtain ⟨e, he, hegrouped, hpprogram⟩ := exists_parse_of_ofSource hp
    obtain ⟨e', he', hqgrouped, hqprogram⟩ := exists_parse_of_ofSource hq
    have hgroup : e.hasGroup = false := hegrouped.symm.trans hgrouped
    have hsource : ("(" ++ source ++ ")").toList = '(' :: (source.toList ++ [')']) := by
      rw [String.toList_append, String.toList_append]
      rfl
    rw [hsource] at he'
    obtain rfl : e' = e.enclosed := by
      rw [Regex.parse_captured he he', Expr.renumbered_eq_self hgroup]
      rfl
    exact ⟨hqgrouped, identifiers_enclosed_program hgroup hpprogram hgrouped hqprogram hqgrouped⟩
  · intro q hq
    obtain ⟨e, he, hegrouped, hpprogram⟩ := exists_parse_of_ofSource hp
    obtain ⟨e', he', hqgrouped, hqprogram⟩ := exists_parse_of_ofSource hq
    have hsource : ("(?:" ++ source ++ ")").toList =
        '(' :: '?' :: ':' :: (source.toList ++ [')']) := by
      rw [String.toList_append, String.toList_append]
      rfl
    rw [hsource] at he'
    obtain rfl : e' = e := Regex.parse_uncaptured he he'
    have hgrouped := hqgrouped.trans hegrouped.symm
    have hprogram := hqprogram.trans hpprogram.symm
    exact ⟨hgrouped, hprogram, identifiers_of_same hgrouped hprogram⟩

def lettersStar : Expr := .repetition (.set ⟨[⟨0x61, 0x62⟩]⟩) 0 none true

/-- Letters in any number with parentheses of both kinds around them. -/
theorem identifiers_enclosed_letters : ∃ p q r,
    (ofExpr "[ab]*" lettersStar = .ok p ∧ ofExpr ("(" ++ "[ab]*" ++ ")") lettersStar.enclosed = .ok q ∧
      ∀ text, q.identifiers text = p.identifiers text) ∧
    ofSource "[ab]*" = .ok p ∧ ofSource ("(" ++ "[ab]*" ++ ")") = .ok q ∧
      ofSource ("(?:" ++ "[ab]*" ++ ")") = .ok r ∧ p.grouped = false ∧ q.grouped = true ∧
      (∀ text, q.identifiers text = p.identifiers text) ∧
      ∀ text, r.identifiers text = p.identifiers text := by
  have hletters : Regex.parse "[ab]*".toList = .ok lettersStar := by cbv
  have hcaptured : Regex.parse ("(" ++ "[ab]*" ++ ")").toList = .ok lettersStar.enclosed := by cbv
  have huncaptured : Regex.parse ("(?:" ++ "[ab]*" ++ ")").toList = .ok lettersStar := by cbv
  have hp := ofSource_of_parse hletters (by decide)
  have hq := ofSource_of_parse hcaptured (by decide)
  have hr := ofSource_of_parse huncaptured (by decide)
  have hexpr : ofExpr "[ab]*" lettersStar = .ok _ := if_neg (by decide)
  have hexpr' : ofExpr ("(" ++ "[ab]*" ++ ")") lettersStar.enclosed = .ok _ := if_neg (by decide)
  obtain ⟨htree, hsource⟩ := identifiers_enclosed
  obtain ⟨hgrouped, hsame⟩ := (hsource _ _ hp).1 rfl _ hq
  obtain ⟨-, -, hsame'⟩ := (hsource _ _ hp).2 _ hr
  exact ⟨_, _, _, ⟨hexpr, hexpr', (htree _ _ _ _ _ rfl hexpr hexpr').2⟩, hp, hq, hr, rfl, hgrouped,
    hsame, hsame'⟩

end RollCall.Pattern
