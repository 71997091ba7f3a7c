import RollCall.Pattern
import RollCall.Proofs.Regex.Exploring
import RollCall.Proofs.Regex.Words

/-! Successive matches of an expression, of whatever kind. Each is one that the expression has, they
do not overlap, and no match begins between them, apart from an empty one right at the end of the
match before it. -/
namespace RollCall
namespace Regex

variable {e : Expr} {hay : Array Char} {start place : Nat} {last : Option Nat} {m : Match}
  {ms : List Match}

namespace Expr

/-- The match is one of the expression, and its group is the last round that the first capture
group took, if it took any. -/
def Finds (e : Expr) (hay : Array Char) (m : Match) : Prop :=
  ∃ rounds, e.Matches hay m.span.start m.span.stop rounds ∧ m.group = rounds.getLast?

def BeginsAt (e : Expr) (hay : Array Char) (place : Nat) : Prop :=
  ∃ stop rounds, e.Matches hay place stop rounds

def EmptyAt (e : Expr) (hay : Array Char) (place : Nat) : Prop :=
  ∃ rounds, e.Matches hay place place rounds

theorem Finds.beginsAt (h : e.Finds hay m) : e.BeginsAt hay m.span.start := by
  obtain ⟨rounds, hmatch, -⟩ := h
  exact ⟨_, rounds, hmatch⟩

theorem Finds.bounds (h : e.Finds hay m) (hstart : m.span.start ≤ hay.size) :
    m.span.start ≤ m.span.stop ∧ m.span.stop ≤ hay.size := by
  obtain ⟨rounds, hmatch, -⟩ := h
  have hwithin := hmatch.within hstart
  exact ⟨hwithin.forward, hwithin.size⟩

theorem Finds.group_within (h : e.Finds hay m) (hstart : m.span.start ≤ hay.size) {s : Span}
    (hs : m.group = some s) :
    m.span.start ≤ s.start ∧ s.start ≤ s.stop ∧ s.stop ≤ m.span.stop := by
  obtain ⟨rounds, hmatch, hgroup⟩ := h
  exact (hmatch.within hstart).rounds s (List.mem_of_getLast? (hgroup.symm.trans hs))

end Expr

/-- A match that is passed over: an empty one right at the end of the last match. -/
structure Skips (e : Expr) (hay : Array Char) (last : Option Nat) (place : Nat) : Prop where
  last_eq : last = some place
  emptyAt : e.EmptyAt hay place

section Search

/-- What the first match from a place on is, where the last one ended at `last`. -/
inductive FindsNext (e : Expr) (hay : Array Char) (start : Nat) (last : Option Nat) :
    Option Match → Prop
  | nothing (h : ∀ k, start ≤ k → k ≤ hay.size → e.BeginsAt hay k → Skips e hay last k) :
      FindsNext e hay start last none
  | found {m : Match} (hstart : start ≤ m.span.start) (hsize : m.span.start ≤ hay.size)
      (hm : e.Finds hay m)
      (hfirst : ∀ k, start ≤ k → k < m.span.start → e.BeginsAt hay k → Skips e hay last k)
      (hlast : last ≠ some m.span.stop) : FindsNext e hay start last (some m)

theorem not_beginsAt_of_fails
    (h : ∀ n v, ¬ Accepts e.program hay n ⟨0, place, 0, none⟩ v) : ¬ e.BeginsAt hay place := by
  rintro ⟨stop, rounds, hmatch⟩
  obtain ⟨n, v, hv⟩ := Expr.succeeds_of_matches hmatch ⟨0, place, 0, none⟩ rfl rfl
  exact h n v hv

theorem findsNext_search (h : e.Proper 0) (hstart : start ≤ hay.size + 1) :
    FindsNext e hay start none (search e.program hay start) := by
  have hfound := found_search e.closed_program (by rw [e.size_program]; omega) hstart
  generalize search e.program hay start = found at hfound ⊢
  cases hfound with
  | none hnone =>
    exact .nothing fun k hk hsize hbegins =>
      absurd hbegins (not_beginsAt_of_fails (hnone k hk (by omega)))
  | @some place n v hplace hlt hfirst hv =>
    exact .found hplace (show place ≤ hay.size by omega) (Expr.exists_matches_of_accepts h hv)
      (fun k hk hlt hbegins => absurd hbegins (not_beginsAt_of_fails (hfirst k hk hlt))) nofun

theorem FindsNext.after_last {found : Option Match} (h : FindsNext e hay start none found)
    (hlast : ∀ m, found = some m → last ≠ some m.span.stop) : FindsNext e hay start last found := by
  cases h with
  | nothing h => exact .nothing fun k hk hsize hbegins => nomatch (h k hk hsize hbegins).last_eq
  | found hstart hsize hm hfirst =>
    exact .found hstart hsize hm
      (fun k hk hlt hbegins => nomatch (hfirst k hk hlt hbegins).last_eq) (hlast _ rfl)

/-- If the expression matches the empty text where the last match ended, that is passed over. -/
theorem FindsNext.after_empty {found : Option Match} (hempty : e.EmptyAt hay start)
    (h : FindsNext e hay (start + 1) none found) : FindsNext e hay start (some start) found := by
  have hskips {k : Nat} (hk : start ≤ k)
      (hlater : start + 1 ≤ k → Skips e hay none k) : Skips e hay (some start) k := by
    rcases Nat.eq_or_lt_of_le hk with rfl | hlt
    · exact ⟨rfl, hempty⟩
    · exact nomatch (hlater hlt).last_eq
  cases h with
  | nothing h =>
    exact .nothing fun k hk hsize hbegins => hskips hk fun hk' => h k hk' hsize hbegins
  | found hstart hsize hm hfirst =>
    refine .found (Nat.le_of_succ_le hstart) hsize hm
      (fun k hk hlt hbegins => hskips hk fun hk' => hfirst k hk' hlt hbegins) fun heq => ?_
    have hstop := (hm.bounds hsize).1
    have := Option.some.inj heq
    omega

theorem findsNext_nextMatch (h : e.Proper 0) (hstart : start ≤ hay.size)
    (hlast : ∀ l, last = some l → l = start) :
    FindsNext e hay start last (nextMatch e.program hay start last) := by
  have hsearch := @findsNext_search e hay start h (Nat.le_succ_of_le hstart)
  rw [nextMatch]
  generalize search e.program hay start = found at hsearch ⊢
  cases found with
  | none => exact hsearch.after_last (by simp)
  | some m =>
    dsimp only
    split
    · next hempty =>
      obtain ⟨heq, rfl⟩ := hempty
      have hend : m.span.stop = start := hlast _ rfl
      have hat : e.EmptyAt hay start := by
        cases hsearch with
        | found _ _ hm =>
          obtain ⟨rounds, hmatch, -⟩ := hm
          rw [heq, hend] at hmatch
          exact ⟨rounds, hmatch⟩
      rw [hend]
      exact .after_empty hat (findsNext_search h (by omega))
    · next hne =>
      refine hsearch.after_last fun m' hm' hend => hne ?_
      obtain rfl := Option.some.inj hm'
      cases hsearch with
      | found hle hsize hm =>
        have hstop := (hm.bounds hsize).1
        have := hlast _ hend
        exact ⟨by omega, hend⟩

end Search

section Sweep

/-- How successive matches follow each other from a place on, where the last one ended at `last`. -/
inductive Sweep (e : Expr) (hay : Array Char) :
    (start : Nat) → (last : Option Nat) → List Match → Prop
  | done {start : Nat} {last : Option Nat}
      (h : ∀ k, start ≤ k → k ≤ hay.size → e.BeginsAt hay k → Skips e hay last k) :
      Sweep e hay start last []
  | next {start : Nat} {last : Option Nat} {m : Match} {ms : List Match}
      (hstart : start ≤ m.span.start) (hsize : m.span.start ≤ hay.size) (hm : e.Finds hay m)
      (hfirst : ∀ k, start ≤ k → k < m.span.start → e.BeginsAt hay k → Skips e hay last k)
      (hrest : Sweep e hay m.span.stop (some m.span.stop) ms) : Sweep e hay start last (m :: ms)

/-- No two matches end at one place, so that there is room for all of them. -/
theorem exists_sweep_collectMatches (h : e.Proper 0) {fuel : Nat} {found : List Match}
    (hstart : start ≤ hay.size) (hlast : ∀ l, last = some l → l = start)
    (hfuel : hay.size - start + (if last = none then 2 else 1) ≤ fuel) :
    ∃ ms, collectMatches e.program hay fuel start last found = found.reverse ++ ms ∧
      Sweep e hay start last ms := by
  induction fuel generalizing start last found with
  | zero => split at hfuel <;> omega
  | succ fuel ih =>
    have hnext := findsNext_nextMatch h hstart hlast
    rw [collectMatches]
    generalize nextMatch e.program hay start last = next at hnext ⊢
    cases hnext with
    | nothing hnone => exact ⟨[], (List.append_nil _).symm, .done hnone⟩
    | @found m hle hsize hm hfirst hend =>
      obtain ⟨hforward, hwithin⟩ := hm.bounds hsize
      have hfuel' : hay.size - m.span.stop + 1 ≤ fuel := by
        split at hfuel
        · omega
        · next hsome =>
          obtain ⟨l, rfl⟩ := Option.ne_none_iff_exists'.mp hsome
          have hl := hlast l rfl
          have hne : l ≠ m.span.stop := fun heq => hend (congrArg some heq)
          omega
      obtain ⟨ms, hms, hsweep⟩ := @ih m.span.stop (some m.span.stop) (m :: found) hwithin
        (fun l hl => (Option.some.inj hl).symm) (by simpa using hfuel')
      refine ⟨m :: ms, ?_, .next hle hsize hm hfirst hsweep⟩
      dsimp only
      rw [hms, List.reverse_cons, List.append_assoc, List.singleton_append]

theorem sweep_allMatches (h : e.Proper 0) (hay : Array Char) :
    Sweep e hay 0 none (allMatches e.program hay) := by
  obtain ⟨ms, hms, hsweep⟩ := @exists_sweep_collectMatches e hay 0 none h (hay.size + 2) []
    (Nat.zero_le _) nofun (by simp)
  rw [allMatches, hms]
  exact hsweep

theorem Sweep.mem (h : Sweep e hay start last ms) (hm : m ∈ ms) :
    start ≤ m.span.start ∧ m.span.start ≤ hay.size ∧ e.Finds hay m := by
  induction h with
  | done => contradiction
  | @next start last m' ms hstart hsize hm' _ _ ih =>
    rcases List.mem_cons.mp hm with rfl | hm
    · exact ⟨hstart, hsize, hm'⟩
    · obtain ⟨hle, hrest⟩ := ih hm
      exact ⟨(hstart.trans (hm'.bounds hsize).1).trans hle, hrest⟩

theorem Sweep.pairwise (h : Sweep e hay start last ms) :
    ms.Pairwise fun m m' => m.span.stop ≤ m'.span.start := by
  induction h with
  | done => exact .nil
  | next _ _ _ _ hrest ih => exact .cons (fun m' hm' => (hrest.mem hm').1) ih

/-- Wherever a match begins, a match was found that goes on from there, or the expression matches
the empty text there, and a match ended there. -/
theorem Sweep.begins (h : Sweep e hay start last ms) {k : Nat} (hk : start ≤ k)
    (hsize : k ≤ hay.size) (hbegins : e.BeginsAt hay k) :
    (∃ m ∈ ms, m.span.start ≤ k ∧ k < m.span.stop) ∨
      e.EmptyAt hay k ∧ (last = some k ∨ ∃ m ∈ ms, m.span.stop = k) := by
  induction h with
  | done hnone =>
    obtain ⟨hlast, hempty⟩ := hnone k hk hsize hbegins
    exact Or.inr ⟨hempty, Or.inl hlast⟩
  | @next start last m ms hstart hsize' hm hfirst _ ih =>
    by_cases hbefore : k < m.span.start
    · obtain ⟨hlast, hempty⟩ := hfirst k hk hbefore hbegins
      exact Or.inr ⟨hempty, Or.inl hlast⟩
    by_cases hwithin : k < m.span.stop
    · exact Or.inl ⟨m, List.mem_cons_self, Nat.not_lt.mp hbefore, hwithin⟩
    rcases ih (Nat.not_lt.mp hwithin) with ⟨m', hm', hspan⟩ | ⟨hempty, hend | ⟨m', hm', hend⟩⟩
    · exact Or.inl ⟨m', List.mem_cons_of_mem m hm', hspan⟩
    · exact Or.inr ⟨hempty, Or.inr ⟨m, List.mem_cons_self, Option.some.inj hend⟩⟩
    · exact Or.inr ⟨hempty, Or.inr ⟨m', List.mem_cons_of_mem m hm', hend⟩⟩

end Sweep

/-- The matches are the leftmost ones that do not overlap. -/
structure Leftmost (e : Expr) (hay : Array Char) (ms : List Match) : Prop where
  finds : ∀ m ∈ ms, e.Finds hay m
  bounds : ∀ m ∈ ms, m.span.start ≤ m.span.stop ∧ m.span.stop ≤ hay.size
  group_within : ∀ m ∈ ms, ∀ s ∈ m.group,
    m.span.start ≤ s.start ∧ s.start ≤ s.stop ∧ s.stop ≤ m.span.stop
  apart : ms.Pairwise fun m m' => m.span.stop ≤ m'.span.start
  /-- Nothing begins before the first match, between two of them or behind the last. -/
  not_begins : ∀ k ≤ hay.size, (∀ m ∈ ms, k < m.span.start ∨ m.span.stop < k) →
    ¬ e.BeginsAt hay k
  /-- What begins right where a match ends, and is not the next match, can be empty. -/
  empty_at_end : ∀ k ≤ hay.size, (∀ m ∈ ms, k < m.span.start ∨ m.span.stop ≤ k) →
    e.BeginsAt hay k → e.EmptyAt hay k

theorem leftmost_allMatches (h : e.Proper 0) (hay : Array Char) :
    Leftmost e hay (allMatches e.program hay) := by
  have hsweep := sweep_allMatches h hay
  generalize allMatches e.program hay = ms at hsweep
  refine ⟨fun m hm => (hsweep.mem hm).2.2, fun m hm => ?_, fun m hm s hs => ?_, hsweep.pairwise,
    fun k hk hout hbegins => ?_, fun k hk hout hbegins => ?_⟩
  · obtain ⟨-, hsize, hfinds⟩ := hsweep.mem hm
    exact hfinds.bounds hsize
  · obtain ⟨-, hsize, hfinds⟩ := hsweep.mem hm
    exact hfinds.group_within hsize hs
  · rcases hsweep.begins (Nat.zero_le k) hk hbegins with ⟨m, hm, hspan⟩ | ⟨-, hlast | ⟨m, hm, hend⟩⟩
    · have := hout m hm
      omega
    · contradiction
    · have := hout m hm
      have := (hsweep.mem hm).2.2.bounds (hsweep.mem hm).2.1
      omega
  · rcases hsweep.begins (Nat.zero_le k) hk hbegins with ⟨m, hm, hspan⟩ | ⟨hempty, -⟩
    · have := hout m hm
      omega
    · exact hempty

/-- Nothing is found exactly if nothing begins anywhere. -/
theorem Leftmost.eq_nil_iff (h : Leftmost e hay ms) :
    ms = [] ↔ ∀ k ≤ hay.size, ¬ e.BeginsAt hay k := by
  constructor
  · rintro rfl k hk
    exact h.not_begins k hk nofun
  · intro hnone
    refine List.eq_nil_iff_forall_not_mem.mpr fun m hm => ?_
    obtain ⟨hle, hsize⟩ := h.bounds m hm
    exact hnone _ (hle.trans hsize) (h.finds m hm).beginsAt

theorem Leftmost.start_lt_stop (h : Leftmost e hay ms) (hempty : ∀ k ≤ hay.size, ¬ e.EmptyAt hay k)
    (hm : m ∈ ms) : m.span.start < m.span.stop := by
  obtain ⟨hle, hsize⟩ := h.bounds m hm
  refine lt_of_le_of_ne hle fun heq => hempty _ (hle.trans hsize) ?_
  obtain ⟨rounds, hmatch, -⟩ := h.finds m hm
  rw [← heq] at hmatch
  exact ⟨rounds, hmatch⟩

/-- A span within a text cuts it between characters. -/
theorem Span.exists_cut {text : String} {s : Span} (hle : s.start ≤ s.stop)
    (hsize : s.stop ≤ text.toList.toArray.size) :
    ∃ before after : String,
      text = before ++ String.ofList (s.part text.toList.toArray) ++ after ∧
        before.length = s.start := by
  refine ⟨String.ofList (text.toList.take s.start), String.ofList (text.toList.drop s.stop), ?_, ?_⟩
  · apply String.toList_inj.mp
    have hstop : s.stop = s.start + (s.stop - s.start) := by omega
    rw [String.toList_append, String.toList_append, String.toList_ofList, String.toList_ofList,
      String.toList_ofList, Span.part, List.append_assoc, hstop, ← List.drop_drop,
      Nat.add_sub_cancel_left]
    show _ = _ ++ (List.take _ (text.toList.drop s.start) ++ _)
    rw [List.take_append_drop, List.take_append_drop]
  · rw [List.size_toArray] at hsize
    rw [String.length_ofList, List.length_take]
    omega

theorem Span.ofList_part_ne_iff {s : Span} (hle : s.start ≤ s.stop) (hsize : s.stop ≤ hay.size) :
    String.ofList (s.part hay) ≠ "" ↔ s.start < s.stop := by
  have hlength : (String.ofList (s.part hay)).length = s.stop - s.start := by
    rw [String.length_ofList, Span.part, List.length_take, length_ahead]
    omega
  rw [Ne, ← String.length_eq_zero_iff, hlength]
  omega

end Regex

namespace Pattern

open Regex

variable {p : Pattern} {source : String}

theorem exists_parse_of_ofSource (h : ofSource source = .ok p) :
    ∃ e, Regex.parse source.toList = .ok e ∧ p.grouped = e.hasGroup ∧ p.program = e.program := by
  obtain ⟨e, he, hp⟩ := bind_ok.mp h
  unfold ofExpr at hp
  split at hp
  · contradiction
  · cases Except.ok.inj hp
    exact ⟨e, he, rfl, rfl⟩

/-- The spans that a pattern takes for identifiers: those of its matches or, if it has groups, of the
first group in the matches in which it takes part. -/
def takenSpans (grouped : Bool) (ms : List Match) : List Span :=
  if grouped then ms.filterMap Match.group else ms.map Match.span

theorem identifiers_eq_takenSpans (p : Pattern) (text : String) :
    let hay := text.toList.toArray
    p.identifiers text = ((takenSpans p.grouped (allMatches p.program hay)).filter
      fun s => s.start < s.stop).map fun s => String.ofList (s.part hay) := by
  have hspans : (allMatches p.program text.toList.toArray).filterMap p.identifierSpan =
      takenSpans p.grouped (allMatches p.program text.toList.toArray) := by
    unfold takenSpans identifierSpan
    cases p.grouped with
    | true => rfl
    | false => simp
  rw [identifiers_eq_map_part, identifierSpans, hspans]

/-- All spans that are taken lie within the text. -/
theorem within_of_mem_takenSpans {e : Expr} {hay : Array Char} {ms : List Match} {grouped : Bool}
    (h : Leftmost e hay ms) {s : Span} (hs : s ∈ takenSpans grouped ms) :
    s.start ≤ s.stop ∧ s.stop ≤ hay.size := by
  unfold takenSpans at hs
  split at hs
  · obtain ⟨m, hm, hgroup⟩ := List.mem_filterMap.mp hs
    obtain ⟨-, hle, hstop⟩ := h.group_within m hm s hgroup
    exact ⟨hle, hstop.trans (h.bounds m hm).2⟩
  · obtain ⟨m, hm, rfl⟩ := List.mem_map.mp hs
    exact h.bounds m hm

/-- The matches of every pattern in every text are the leftmost ones that do not overlap, each
between two characters of the text, in the sense in which an expression matches. The identifiers are
what is not empty of what the matches cover or, if the pattern has groups, of what the first group
covers in those in which it takes part. So a pattern without groups that does not match the empty
text finds nothing exactly if it matches nowhere. -/
theorem identifiers_leftmost (h : ofSource source = .ok p) (text : String) :
    ∃ e, Regex.parse source.toList = .ok e ∧
      let hay := text.toList.toArray
      let ms := allMatches p.program hay
      Leftmost e hay ms ∧
      (∀ m ∈ ms, ∃ before after : String,
        text = before ++ String.ofList (m.span.part hay) ++ after ∧ before.length = m.span.start) ∧
      p.identifiers text =
        ((takenSpans e.hasGroup ms).map fun s => String.ofList (s.part hay)).filter (· ≠ "") ∧
      (e.hasGroup = false → (∀ k ≤ hay.size, ¬ e.EmptyAt hay k) →
        (p.identifiers text = [] ↔ ∀ k ≤ hay.size, ¬ e.BeginsAt hay k)) := by
  obtain ⟨e, he, hgrouped, hprogram⟩ := exists_parse_of_ofSource h
  have hidentifiers := p.identifiers_eq_takenSpans text
  have hleftmost := leftmost_allMatches (proper_of_parse he) text.toList.toArray
  rw [← hprogram] at hleftmost
  rw [hgrouped] at hidentifiers
  refine ⟨e, he, hleftmost, fun m hm => ?_, ?_, fun hgroup hempty => ?_⟩
  · obtain ⟨hle, hsize⟩ := hleftmost.bounds m hm
    exact Span.exists_cut hle hsize
  · rw [hidentifiers, List.filter_map]
    congr 1
    refine List.filter_congr fun s hs => ?_
    obtain ⟨hle, hsize⟩ := within_of_mem_takenSpans hleftmost hs
    exact decide_eq_decide.mpr (Span.ofList_part_ne_iff hle hsize).symm
  · have hall : ∀ s ∈ (allMatches p.program text.toList.toArray).map Match.span,
        decide (s.start < s.stop) = true := List.forall_mem_map.mpr fun m hm =>
      decide_eq_true (hleftmost.start_lt_stop hempty hm)
    rw [← hleftmost.eq_nil_iff, hidentifiers, hgroup]
    show List.map _ (List.filter _ ((allMatches p.program text.toList.toArray).map Match.span)) = []
      ↔ _
    rw [List.filter_eq_self.mpr hall, List.map_eq_nil_iff, List.map_eq_nil_iff]

/-- Two letters in a text that has others before and after them. -/
theorem identifiers_leftmost_letters : ∃ p, ofSource "[ab]" = .ok p ∧
    ∃ e, Regex.parse "[ab]".toList = .ok e ∧
      Leftmost e "x-ab-".toList.toArray (allMatches p.program "x-ab-".toList.toArray) := by
  obtain ⟨p, hp⟩ := exists_ofSource_letters
  obtain ⟨e, he, hleftmost, -⟩ := identifiers_leftmost hp "x-ab-"
  exact ⟨p, hp, e, he, hleftmost⟩

end Pattern
end RollCall
