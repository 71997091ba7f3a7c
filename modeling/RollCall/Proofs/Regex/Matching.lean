import RollCall.Proofs.Regex.Code
import RollCall.Proofs.Regex.Numbering

/-! What an expression matches, said without a machine: the places where a match begins and ends, and
the rounds of the first group. -/
namespace RollCall.Regex

variable {prog : Program} {hay : Array Char} {t u v : Thread} {n base next : Nat} {i : Instr}

theorem ahead_eq_cons {c : Char} {place : Nat} (h : hay[place]? = some c) :
    ahead hay place = c :: ahead hay (place + 1) := by
  rw [getElem?_eq_head?] at h
  rw [ahead_add, List.drop_one]
  exact (List.cons_head?_tail h).symm

namespace Expr

mutual

/-- The expression matches the text between two places; `rounds` are the spans that the first
capture group takes on the way, in order. -/
inductive Matches (hay : Array Char) : Expr → (start stop : Nat) → (rounds : List Span) → Prop
  | empty {place : Nat} : Matches hay .empty place place []
  | text {cs : List Char} {place : Nat} (h : cs <+: ahead hay place) :
      Matches hay (.text cs) place (place + cs.length) []
  | set {s : CharSet} {c : Char} {place : Nat} (hc : hay[place]? = some c)
      (hs : s.contains c = true) : Matches hay (.set s) place (place + 1) []
  | look {l : Look} {place : Nat} (h : l.holds hay place = true) :
      Matches hay (.look l) place place []
  | group {index : Nat} {body : Expr} {start stop : Nat} {rounds : List Span}
      (h : Matches hay body start stop rounds) :
      Matches hay (.group index body) start stop
        (if index = 1 then rounds ++ [⟨start, stop⟩] else rounds)
  | repetition {body : Expr} {min n : Nat} {max : Option Nat} {greedy : Bool} {start stop : Nat}
      {rounds : List Span} (hmin : min ≤ n) (hmax : ∀ m ∈ max, n ≤ m)
      (h : Repeats hay body n start stop rounds) :
      Matches hay (.repetition body min max greedy) start stop rounds
  | seq {first rest : Expr} {start middle stop : Nat} {rounds rounds' : List Span}
      (h : Matches hay first start middle rounds) (h' : Matches hay rest middle stop rounds') :
      Matches hay (.seq first rest) start stop (rounds ++ rounds')
  | altFirst {first rest : Expr} {start stop : Nat} {rounds : List Span}
      (h : Matches hay first start stop rounds) : Matches hay (.alt first rest) start stop rounds
  | altRest {first rest : Expr} {start stop : Nat} {rounds : List Span}
      (h : Matches hay rest start stop rounds) : Matches hay (.alt first rest) start stop rounds

/-- The expression matches this many times, each time from where it stopped before. -/
inductive Repeats (hay : Array Char) :
    Expr → (n start stop : Nat) → (rounds : List Span) → Prop
  | zero {body : Expr} {place : Nat} : Repeats hay body 0 place place []
  | succ {body : Expr} {n start middle stop : Nat} {rounds rounds' : List Span}
      (h : Matches hay body start middle rounds) (h' : Repeats hay body n middle stop rounds') :
      Repeats hay body (n + 1) start stop (rounds ++ rounds')

end

variable {e : Expr} {start middle stop m : Nat} {rounds rounds' : List Span}

theorem Repeats.add (h : e.Repeats hay n start middle rounds)
    (h' : e.Repeats hay m middle stop rounds') :
    e.Repeats hay (n + m) start stop (rounds ++ rounds') := by
  induction n generalizing start rounds with
  | zero =>
    cases h
    rwa [Nat.zero_add]
  | succ n ih =>
    cases h with
    | succ hfirst hrest =>
      rw [Nat.succ_add, List.append_assoc]
      exact .succ hfirst (ih hrest)

theorem Repeats.split (h : e.Repeats hay (n + m) start stop rounds) :
    ∃ middle rounds₁ rounds₂, e.Repeats hay n start middle rounds₁ ∧
      e.Repeats hay m middle stop rounds₂ := by
  induction n generalizing start rounds with
  | zero => exact ⟨start, [], rounds, .zero, by rwa [Nat.zero_add] at h⟩
  | succ n ih =>
    rw [Nat.succ_add] at h
    cases h with
    | succ hfirst hrest =>
      obtain ⟨middle, rounds₁, rounds₂, h₁, h₂⟩ := ih hrest
      exact ⟨middle, _, rounds₂, .succ hfirst h₁, h₂⟩

theorem matches_text_iff {cs : List Char} : (text cs).Matches hay start stop rounds ↔
    cs <+: ahead hay start ∧ stop = start + cs.length ∧ rounds = [] := by
  constructor
  · intro h
    cases h with
    | text h => exact ⟨h, rfl, rfl⟩
  · rintro ⟨h, rfl, rfl⟩
    exact .text h

theorem matches_text_append {cs ds : List Char} (h : (text cs).Matches hay start middle rounds)
    (h' : (text ds).Matches hay middle stop rounds') :
    (text (cs ++ ds)).Matches hay start stop (rounds ++ rounds') := by
  obtain ⟨⟨rest, hrest⟩, rfl, rfl⟩ := matches_text_iff.mp h
  obtain ⟨hbegins, rfl, rfl⟩ := matches_text_iff.mp h'
  rw [ahead_add, ← hrest, List.drop_left] at hbegins
  refine matches_text_iff.mpr ⟨?_, ?_, rfl⟩
  · rw [← hrest]
    exact (List.prefix_append_right_inj cs).mpr hbegins
  · rw [List.length_append, Nat.add_assoc]

/-- The match goes forward and stays within the text, and the rounds are within the match. -/
structure Within (hay : Array Char) (start stop : Nat) (rounds : List Span) : Prop where
  forward : start ≤ stop
  size : stop ≤ hay.size
  rounds : ∀ s ∈ rounds, start ≤ s.start ∧ s.start ≤ s.stop ∧ s.stop ≤ stop

theorem Within.of_nil (hforward : start ≤ stop) (hsize : stop ≤ hay.size) :
    Within hay start stop [] := ⟨hforward, hsize, List.forall_mem_nil _⟩

theorem Within.append (h : Within hay start middle rounds) (h' : Within hay middle stop rounds') :
    Within hay start stop (rounds ++ rounds') where
  forward := h.forward.trans h'.forward
  size := h'.size
  rounds := by
    refine List.forall_mem_append.mpr ⟨fun s hs => ?_, fun s hs => ?_⟩
    · obtain ⟨hstart, hle, hstop⟩ := h.rounds s hs
      exact ⟨hstart, hle, hstop.trans h'.forward⟩
    · obtain ⟨hstart, hle, hstop⟩ := h'.rounds s hs
      exact ⟨h.forward.trans hstart, hle, hstop⟩

theorem Repeats.within (hbody : ∀ {start stop : Nat} {rounds : List Span},
      e.Matches hay start stop rounds → start ≤ hay.size → Within hay start stop rounds)
    (h : e.Repeats hay n start stop rounds) (hstart : start ≤ hay.size) :
    Within hay start stop rounds := by
  induction n generalizing start rounds with
  | zero =>
    cases h
    exact .of_nil (Nat.le_refl _) hstart
  | succ n ih =>
    cases h with
    | succ hfirst hrest =>
      have hwithin := hbody hfirst hstart
      exact hwithin.append (ih hrest hwithin.size)

theorem Matches.within (h : e.Matches hay start stop rounds) (hstart : start ≤ hay.size) :
    Within hay start stop rounds := by
  induction e generalizing start stop rounds with
  | empty | look =>
    cases h
    exact .of_nil (Nat.le_refl _) hstart
  | text cs =>
    cases h with
    | text h =>
      have hlength := h.length_le
      rw [length_ahead] at hlength
      exact .of_nil (Nat.le_add_right _ _) (by omega)
  | set s =>
    cases h with
    | set hc =>
      obtain ⟨hlt, -⟩ := Array.getElem?_eq_some_iff.mp hc
      exact .of_nil (Nat.le_succ _) hlt
  | group index body ih =>
    cases h with
    | group h =>
      have hwithin := ih h hstart
      split
      · refine ⟨hwithin.forward, hwithin.size, List.forall_mem_append.mpr ⟨hwithin.rounds, ?_⟩⟩
        exact List.forall_mem_singleton.mpr ⟨Nat.le_refl _, hwithin.forward, Nat.le_refl _⟩
      · exact hwithin
  | repetition body min max greedy ih =>
    cases h with
    | repetition _ _ h => exact h.within ih hstart
  | seq a b iha ihb =>
    cases h with
    | seq h h' =>
      have hwithin := iha h hstart
      exact hwithin.append (ihb h' hwithin.size)
  | alt a b iha ihb =>
    cases h with
    | altFirst h => exact iha h hstart
    | altRest h => exact ihb h hstart

end Expr

end RollCall.Regex
