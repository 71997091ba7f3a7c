import RollCall.Proofs.Regex.Matching
import RollCall.Proofs.Regex.Paths

/-! The code of an expression leads a way only where the expression matches: a way from its beginning
that is accepted comes to its end by a match. -/
namespace RollCall.Regex.Expr

variable {prog : Program} {hay : Array Char} {t u v : Thread} {n base next outer : Nat} {e : Expr}

/-- What a way keeps in mind after these rounds of the first group. Within the group, which is what
`outer` tells, the place where it was entered stays the same. -/
structure Follows (outer : Nat) (t u : Thread) (rounds : List Span) : Prop where
  group : u.group = rounds.getLast?.or t.group
  entered : 1 ≤ outer → u.entered = t.entered

theorem Follows.of_eq (hgroup : u.group = t.group) (hentered : u.entered = t.entered) :
    Follows outer t u [] := ⟨hgroup, fun _ => hentered⟩

theorem Follows.trans {rounds rounds' : List Span} (h : Follows outer t u rounds)
    (h' : Follows outer u v rounds') : Follows outer t v (rounds ++ rounds') where
  group := by rw [h'.group, h.group, List.getLast?_append, Option.or_assoc]
  entered houter := (h'.entered houter).trans (h.entered houter)

/-- A way that is accepted as `v` comes to the address `next` before. `matched` holds of the place
where it sets out, the place that it has there, and the rounds of the first group in between. -/
inductive Passes (prog : Program) (hay : Array Char) (outer next : Nat)
    (matched : (start stop : Nat) → (rounds : List Span) → Prop) (n : Nat) (t v : Thread) : Prop
  | intro {m : Nat} {u : Thread} {rounds : List Span} (steps : m ≤ n) (address : u.address = next)
      (between : matched t.place u.place rounds) (follows : Follows outer t u rounds)
      (rest : Accepts prog hay m u v)

namespace Passes

variable {P Q R : (start stop : Nat) → (rounds : List Span) → Prop} {m : Nat}

theorem imp (h : Passes prog hay outer next P n t v)
    (himp : ∀ {start stop : Nat} {rounds : List Span}, P start stop rounds → Q start stop rounds) :
    Passes prog hay outer next Q n t v := by
  obtain ⟨steps, address, between, follows, rest⟩ := h
  exact ⟨steps, address, himp between, follows, rest⟩

/-- A way passes the address that it is at after a step without captures. -/
theorem here {place : Nat} (h : Accepts prog hay m { t with address := next, place := place } v)
    (hle : m ≤ n) (hp : P t.place place []) : Passes prog hay outer next P n t v := by
  have hfollows : Follows outer t { t with address := next, place := place } [] := .of_eq rfl rfl
  refine ⟨hle, ?_, ?_, hfollows, h⟩
  · rfl
  · exact hp

/-- A way that only went on to another address has the same places and rounds before it. -/
theorem of_moved {address : Nat}
    (h : Passes prog hay outer next P m { t with address := address } v) (hle : m ≤ n) :
    Passes prog hay outer next P n t v := by
  obtain ⟨steps, address, between, follows, rest⟩ := h
  exact ⟨steps.trans hle, address, between, ⟨follows.group, follows.entered⟩, rest⟩

/-- A way that passes one address and then another one passes the second, by both of the matches. -/
theorem trans {between : Nat} (h : Passes prog hay outer between P n t v)
    (h' : ∀ {m : Nat} {u : Thread}, m ≤ n → u.address = between → Accepts prog hay m u v →
      Passes prog hay outer next Q m u v)
    (hboth : ∀ {start middle stop : Nat} {rounds rounds' : List Span}, P start middle rounds →
      Q middle stop rounds' → R start stop (rounds ++ rounds')) :
    Passes prog hay outer next R n t v := by
  obtain ⟨hle, haddress, hbetween, hfollows, hrest⟩ := h
  obtain ⟨hle', haddress', hbetween', hfollows', hrest'⟩ := h' hle haddress hrest
  exact ⟨hle'.trans hle, haddress', hboth hbetween hbetween', hfollows.trans hfollows', hrest'⟩

end Passes

/-- Wherever the code of the expression stands, a way from its beginning that is accepted comes to
its end by a match of the expression. -/
def Sound (e : Expr) (outer : Nat) : Prop :=
  ∀ ⦃prog : Program⦄ ⦃hay : Array Char⦄ ⦃base next : Nat⦄, prog.HoldsAt base (e.code base next) →
    ∀ ⦃n : Nat⦄ ⦃t v : Thread⦄, t.address = base → Accepts prog hay n t v →
      Passes prog hay outer next (e.Matches hay) n t v

theorem sound_empty : empty.Sound outer := by
  intro prog hay base next h n t v rfl hv
  obtain ⟨m, u, rfl, hu, hrest⟩ := hv.of_instr rfl h.head nofun
  obtain rfl := List.mem_singleton.mp hu
  exact .here hrest (Nat.le_succ m) .empty

theorem sound_look (l : Look) : (look l).Sound outer := by
  intro prog hay base next h n t v rfl hv
  obtain ⟨m, u, rfl, hu, hrest⟩ := hv.of_instr rfl h.head nofun
  rw [Thread.after] at hu
  split at hu
  · next hl =>
    obtain rfl := List.mem_singleton.mp hu
    exact .here hrest (Nat.le_succ m) (.look hl)
  · contradiction

theorem sound_set (s : CharSet) : (set s).Sound outer := by
  intro prog hay base next h n t v rfl hv
  obtain ⟨m, u, rfl, hu, hrest⟩ := hv.of_instr rfl h.head nofun
  rw [Thread.after] at hu
  split at hu
  · next c hc =>
    split at hu
    · next hs =>
      obtain rfl := List.mem_singleton.mp hu
      exact .here hrest (Nat.le_succ m) (.set hc hs)
    · contradiction
  · contradiction

theorem sound_text (cs : List Char) : (text cs).Sound outer := by
  induction cs with
  | nil =>
    intro prog hay base next h n t v rfl hv
    obtain ⟨m, u, rfl, hu, hrest⟩ := hv.of_instr rfl h.head nofun
    obtain rfl := List.mem_singleton.mp hu
    exact .here hrest (Nat.le_succ m) (.text List.nil_prefix)
  | cons c cs ih =>
    intro prog hay base next h n t v rfl hv
    rw [code_text_cons] at h
    obtain ⟨m, u, rfl, hu, hrest⟩ := hv.of_instr rfl h.head nofun
    rw [Thread.after] at hu
    split at hu
    · next hc =>
      obtain rfl := List.mem_singleton.mp hu
      have hfirst : Passes prog hay outer (t.address + 1) ((text [c]).Matches hay) (m + 1) t v :=
        .here hrest (Nat.le_succ m) (.text (by rw [ahead_eq_cons hc]; exact ⟨_, rfl⟩))
      exact hfirst.trans (fun _ hu hrest => ih h.tail hu hrest) matches_text_append
    · contradiction

theorem Sound.seq {a b : Expr} (ha : a.Sound outer) (hb : b.Sound outer) :
    (a.seq b).Sound outer := by
  intro prog hay base next h n t v ht hv
  obtain ⟨hcodeA, hcodeB⟩ := h.append
  rw [length_code] at hcodeB
  exact (ha hcodeA ht hv).trans (fun _ hu hrest => hb hcodeB hu hrest) .seq

theorem Sound.alt {a b : Expr} (ha : a.Sound outer) (hb : b.Sound outer) :
    (a.alt b).Sound outer := by
  intro prog hay base next h n t v rfl hv
  obtain ⟨hcodeA, hcodeB⟩ := h.tail.append
  rw [length_code, Nat.add_right_comm] at hcodeB
  obtain ⟨m, u, rfl, hu, hrest⟩ := hv.of_instr rfl h.head nofun
  rw [Thread.after, List.mem_cons, List.mem_singleton] at hu
  rcases hu with rfl | rfl
  · have hfirst := (ha hcodeA rfl hrest).of_moved (Nat.le_succ m)
    exact hfirst.imp .altFirst
  · have hrest := (hb hcodeB rfl hrest).of_moved (Nat.le_succ m)
    exact hrest.imp .altRest

theorem Sound.group {body : Expr} {index : Nat} (hindex : outer < index)
    (hbody : body.Sound index) : (body.group index).Sound outer := by
  intro prog hay base next h n t v ht hv
  by_cases hone : index = 1
  · subst hone
    rw [code, if_pos rfl] at h
    obtain ⟨hcode, hleave⟩ := h.tail.append
    rw [length_code, Nat.add_right_comm] at hleave
    obtain ⟨m, u, rfl, hu, hrest⟩ := hv.of_instr ht h.head (by simp)
    obtain rfl := List.mem_singleton.mp hu
    obtain @⟨m', u', rounds, hm', hu', hmatch, hfollows, hrest'⟩ := hbody hcode rfl hrest
    obtain ⟨k, w, rfl, hw, hend⟩ := hrest'.of_instr hu' hleave.head (by simp)
    obtain rfl := List.mem_singleton.mp hw
    have hgroup := @Matches.group hay 1 body _ _ _ hmatch
    rw [if_pos rfl] at hgroup
    have hfollows' : Follows outer t
        { u' with address := next, group := some ⟨u'.entered, u'.place⟩ }
        (rounds ++ [⟨t.place, u'.place⟩]) := by
      refine ⟨?_, fun houter => ?_⟩
      · -- The body does not enter the group again, so that this is still where it began.
        show some (⟨u'.entered, u'.place⟩ : Span) = _
        rw [hfollows.entered (Nat.le_refl 1), List.getLast?_concat]
        rfl
      · omega
    have hle : k ≤ m + 1 := by omega
    refine ⟨hle, ?_, ?_, hfollows', hend⟩
    · rfl
    · exact hgroup
  · rw [code, if_neg hone] at h
    obtain @⟨m, u, rounds, hm, hu, hmatch, hfollows, hrest⟩ := hbody h ht hv
    have hgroup := @Matches.group hay index body _ _ _ hmatch
    rw [if_neg hone] at hgroup
    exact ⟨hm, hu, hgroup, ⟨hfollows.group, fun _ => hfollows.entered (by omega)⟩, hrest⟩

/-- Copies one after the other are as many rounds. -/
theorem Sound.copies (he : e.Sound outer) (start : Nat → Nat) {k : Nat}
    (hcode : ∀ j < k, prog.HoldsAt (start j) (e.code (start j) (start (j + 1))))
    (ht : t.address = start 0) (hv : Accepts prog hay n t v) :
    Passes prog hay outer (start k) (e.Repeats hay k) n t v := by
  induction k generalizing start n t with
  | zero => exact ⟨Nat.le_refl n, ht, .zero, .of_eq rfl rfl, hv⟩
  | succ k ih =>
    have hfirst := he (hcode 0 (Nat.succ_pos k)) ht hv
    refine hfirst.trans (fun _ hu hrest => ?_) .succ
    exact ih (fun j => start (j + 1)) (fun j hj => hcode (j + 1) (by omega)) hu hrest

/-- A choice behind a body that leads back to it takes any number of rounds. -/
theorem Sound.loop (he : e.Sound outer) {greedy : Bool} {choice inner : Nat}
    (hchoice : prog[choice]? = some (.choice greedy inner next))
    (hcode : prog.HoldsAt inner (e.code inner choice)) (ht : t.address = choice)
    (hv : Accepts prog hay n t v) :
    Passes prog hay outer next (fun start stop rounds => ∃ k, e.Repeats hay k start stop rounds)
      n t v := by
  induction n using Nat.strongRecOn generalizing t with
  | ind n ih =>
    obtain ⟨m, u, rfl, hu, hrest⟩ := hv.of_instr ht hchoice (choice_ne_accept _ _ _)
    rcases mem_after_choice.mp hu with rfl | rfl
    · have hround := he hcode rfl hrest
      refine (hround.trans (fun hle hu hrest => ih _ (Nat.lt_succ_of_le hle) hu hrest)
        fun hmatch hrepeats => ?_).of_moved (Nat.le_succ m)
      obtain ⟨k, hrepeats⟩ := hrepeats
      exact ⟨k + 1, .succ hmatch hrepeats⟩
    · exact .here hrest (Nat.le_succ m) ⟨0, .zero⟩

/-- Copies each of which may be left out with all that follow. -/
theorem Sound.options (he : e.Sound outer) {greedy : Bool} (start : Nat → Nat) {k : Nat}
    (hchoice : ∀ j < k, prog[start j]? = some (.choice greedy (start j + 1) next))
    (hcode : ∀ j < k, prog.HoldsAt (start j + 1) (e.code (start j + 1) (start (j + 1))))
    (hend : prog[start k]? = some (.jump next)) (ht : t.address = start 0)
    (hv : Accepts prog hay n t v) :
    Passes prog hay outer next
      (fun start stop rounds => ∃ j ≤ k, e.Repeats hay j start stop rounds) n t v := by
  induction k generalizing start n t with
  | zero =>
    obtain ⟨m, u, rfl, hu, hrest⟩ := hv.of_instr ht hend nofun
    obtain rfl := List.mem_singleton.mp hu
    exact .here hrest (Nat.le_succ m) ⟨0, Nat.le_refl 0, .zero⟩
  | succ k ih =>
    obtain ⟨m, u, rfl, hu, hrest⟩ :=
      hv.of_instr ht (hchoice 0 (Nat.succ_pos k)) (choice_ne_accept _ _ _)
    rcases mem_after_choice.mp hu with rfl | rfl
    · have hround := (he (hcode 0 (Nat.succ_pos k)) rfl hrest).of_moved (Nat.le_succ m)
      refine hround.trans (fun _ hu hrest => ih (fun j => start (j + 1))
        (fun j hj => hchoice (j + 1) (by omega)) (fun j hj => hcode (j + 1) (by omega)) hend hu
        hrest) fun hmatch hrepeats => ?_
      obtain ⟨j, hj, hrepeats⟩ := hrepeats
      exact ⟨j + 1, Nat.succ_le_succ hj, .succ hmatch hrepeats⟩
    · exact .here hrest (Nat.le_succ m) ⟨0, Nat.zero_le _, .zero⟩

theorem Sound.repetition {body : Expr} {min : Nat} {max : Option Nat} {greedy : Bool}
    (hbody : body.Sound outer) (hle : ∀ m ∈ max, min ≤ m) :
    (body.repetition min max greedy).Sound outer := by
  intro prog hay base next h n t v ht hv
  cases max with
  | some max =>
    have hle := hle max rfl
    obtain ⟨hcopies, hoptions, hjump⟩ := holdsAt_bounded h
    have hdue := hbody.copies (fun j => base + j * body.codeSize) hcopies (by rw [ht]; simp) hv
    refine hdue.trans (fun _ hu hrest => hbody.options
      (fun j => base + min * body.codeSize + j * (body.codeSize + 1))
      (fun j hj => (hoptions j hj).1) (fun j hj => (hoptions j hj).2) hjump (by rw [hu]; simp)
      hrest) fun hrepeats hrepeats' => ?_
    obtain ⟨j, hj, hrepeats'⟩ := hrepeats'
    refine .repetition (Nat.le_add_right min j) (fun m hm => ?_) (hrepeats.add hrepeats')
    obtain rfl := Option.some.inj hm
    omega
  | none =>
    cases min with
    | succ min =>
      obtain ⟨hcopies, hchoice⟩ := holdsAt_unbounded h
      have hdue := hbody.copies (fun j => base + j * body.codeSize) hcopies (by rw [ht]; simp) hv
      refine hdue.trans (fun _ hu hrest =>
        hbody.loop hchoice (hcopies min (Nat.lt_succ_self min)) hu hrest)
        fun hrepeats hrepeats' => ?_
      obtain ⟨k, hrepeats'⟩ := hrepeats'
      exact .repetition (Nat.le_add_right (min + 1) k) nofun (hrepeats.add hrepeats')
    | zero =>
      by_cases hconsumes : body.consumes = true
      · obtain ⟨hchoice, hcode⟩ := holdsAt_star_of_consumes hconsumes h
        refine (hbody.loop hchoice hcode ht hv).imp fun hrepeats => ?_
        obtain ⟨k, hrepeats⟩ := hrepeats
        exact .repetition (Nat.zero_le k) nofun hrepeats
      · obtain ⟨hfirst, hcode, hchoice⟩ := holdsAt_star hconsumes h
        obtain ⟨m, u, rfl, hu, hrest⟩ := hv.of_instr ht hfirst (choice_ne_accept _ _ _)
        rcases mem_after_choice.mp hu with rfl | rfl
        · have hround := (hbody hcode rfl hrest).of_moved (Nat.le_succ m)
          refine hround.trans (fun _ hu hrest => hbody.loop hchoice hcode hu hrest)
            fun hmatch hrepeats => ?_
          obtain ⟨k, hrepeats⟩ := hrepeats
          exact .repetition (Nat.zero_le (k + 1)) nofun (.succ hmatch hrepeats)
        · exact .here hrest (Nat.le_succ m) (.repetition (Nat.le_refl 0) nofun .zero)

/-- The code of an expression goes where it matches. -/
theorem sound_of_proper (h : e.Proper outer) : e.Sound outer := by
  induction e generalizing outer with
  | empty => exact sound_empty
  | text cs => exact sound_text cs
  | set s => exact sound_set s
  | look l => exact sound_look l
  | group index body ih => exact .group h.1 (ih h.2)
  | repetition body min max greedy ih => exact .repetition (ih h.2) h.1
  | seq a b iha ihb => exact .seq (iha h.1) (ihb h.2)
  | alt a b iha ihb => exact .alt (iha h.1) (ihb h.2)

end RollCall.Regex.Expr
