import Mathlib.Data.Finset.Card
import Mathlib.Data.List.Forall2
import Mathlib.Tactic.Ring
import RollCall.Regex.Search
import Std.Data.HashSet.Lemmas

/-! The machine and its memory. Without a memory, the machine takes ways from the stack until one
accepts or none is left. Wherever that comes to an end, the machine that remembers what it took
ends with the same way, and what it remembers after a failure leads nowhere. -/
namespace RollCall.Regex

variable {prog : Program} {hay : Array Char} {t u : Thread} {stack : List Thread}
  {r : Option Thread} {n : Nat}

/-- A run without a memory: the stack, the number of steps, and the accepting way. -/
inductive Halts (prog : Program) (hay : Array Char) : Nat → List Thread → Option Thread → Prop
  | empty : Halts prog hay 0 [] none
  | accept {t : Thread} {stack : List Thread} (h : prog[t.address]? = some .accept) :
      Halts prog hay 0 (t :: stack) (some t)
  | step {n : Nat} {t : Thread} {stack : List Thread} {r : Option Thread} {i : Instr}
      (h : prog[t.address]? = some i) (hi : i ≠ .accept)
      (hr : Halts prog hay n (t.after hay i ++ stack) r) : Halts prog hay (n + 1) (t :: stack) r

theorem Halts.unique {n' : Nat} {r' : Option Thread} (h : Halts prog hay n stack r)
    (h' : Halts prog hay n' stack r') : n = n' ∧ r = r' := by
  induction h generalizing n' with
  | empty =>
    cases h'
    exact ⟨rfl, rfl⟩
  | accept h =>
    cases h' with
    | accept => exact ⟨rfl, rfl⟩
    | step h' hi => exact absurd (Option.some.inj (h'.symm.trans h)) hi
  | step h hi _ ih =>
    cases h' with
    | accept h' => exact absurd (Option.some.inj (h.symm.trans h')) hi
    | step h' _ hr' =>
      obtain rfl := Option.some.inj (h.symm.trans h')
      obtain ⟨rfl, rfl⟩ := ih hr'
      exact ⟨rfl, rfl⟩

/-- The upper part of a stack is worked off before the lower part is touched. -/
theorem Halts.of_append {upper lower : List Thread} (h : Halts prog hay n (upper ++ lower) r) :
    (∃ k m, n = k + m ∧ Halts prog hay k upper none ∧ Halts prog hay m lower r) ∨
      ∃ t, r = some t ∧ Halts prog hay n upper (some t) := by
  induction n generalizing upper with
  | zero =>
    cases upper with
    | nil => exact Or.inl ⟨0, 0, rfl, .empty, h⟩
    | cons t upper =>
      cases h with
      | accept h => exact Or.inr ⟨t, rfl, .accept h⟩
  | succ n ih =>
    cases upper with
    | nil => exact Or.inl ⟨0, n + 1, (Nat.zero_add _).symm, .empty, h⟩
    | cons t upper =>
      cases h with
      | @step _ _ _ _ i h hi hr =>
        have hr : Halts prog hay n (t.after hay i ++ upper ++ lower) r := by
          rw [List.append_assoc]
          exact hr
        rcases ih hr with ⟨k, m, hn, hupper, hlower⟩ | ⟨u, hu, hupper⟩
        · exact Or.inl ⟨k + 1, m, by omega, .step h hi hupper, hlower⟩
        · exact Or.inr ⟨u, hu, .step h hi hupper⟩

theorem Halts.of_cons (h : Halts prog hay n (t :: stack) r) :
    (∃ k m, n = k + m ∧ Halts prog hay k [t] none ∧ Halts prog hay m stack r) ∨
      ∃ u, r = some u ∧ Halts prog hay n [t] (some u) := by
  have happend : Halts prog hay n ([t] ++ stack) r := h
  exact happend.of_append

theorem Halts.append {k : Nat} {upper lower : List Thread} (hupper : Halts prog hay k upper none)
    (hlower : Halts prog hay n lower r) : Halts prog hay (k + n) (upper ++ lower) r := by
  generalize hr : (none : Option Thread) = r' at hupper
  induction hupper with
  | empty => rwa [Nat.zero_add]
  | accept h => contradiction
  | step h hi _ ih =>
    rw [Nat.succ_add]
    have hrest := ih hr
    rw [List.append_assoc] at hrest
    exact .step h hi hrest

theorem Halts.append_some {upper : List Thread} (hupper : Halts prog hay n upper (some t))
    (lower : List Thread) : Halts prog hay n (upper ++ lower) (some t) := by
  generalize hr : some t = r' at hupper
  induction hupper with
  | empty => contradiction
  | accept h => exact .accept h
  | step h hi _ ih =>
    have hrest := ih hr
    rw [List.append_assoc] at hrest
    exact .step h hi hrest

def Thread.Alike (t u : Thread) : Prop := t.address = u.address ∧ t.place = u.place

theorem Thread.alike_after (h : t.Alike u) (i : Instr) :
    List.Forall₂ Thread.Alike (t.after hay i) (u.after hay i) := by
  obtain ⟨-, hplace⟩ := h
  cases i with
  | set s next =>
    simp only [Thread.after, hplace]
    cases hay[u.place]? with
    | none => exact .nil
    | some c =>
      dsimp only
      split
      · exact .cons ⟨rfl, rfl⟩ .nil
      · exact .nil
  | char c next =>
    simp only [Thread.after, hplace]
    split
    · exact .cons ⟨rfl, rfl⟩ .nil
    · exact .nil
  | look l next =>
    simp only [Thread.after, hplace]
    split
    · exact .cons ⟨rfl, rfl⟩ .nil
    · exact .nil
  | jump next | enter next | leave next => exact .cons ⟨rfl, hplace⟩ .nil
  | split first second => exact .cons ⟨rfl, hplace⟩ (.cons ⟨rfl, hplace⟩ .nil)
  | accept => exact .nil

/-- What a way has captured makes no difference to where the machine goes. -/
theorem Halts.of_alike {stack' : List Thread} (h : Halts prog hay n stack r)
    (hstack : List.Forall₂ Thread.Alike stack stack') :
    ∃ r', Halts prog hay n stack' r' ∧ r'.isSome = r.isSome := by
  induction h generalizing stack' with
  | empty =>
    cases hstack
    exact ⟨none, .empty, rfl⟩
  | accept h =>
    cases hstack with
    | @cons t u _ stack' ht _ => exact ⟨some u, .accept (ht.1 ▸ h), rfl⟩
  | step h hi _ ih =>
    cases hstack with
    | cons ht htail =>
      obtain ⟨r', hr', hsome⟩ := ih (List.rel_append (Thread.alike_after ht _) htail)
      exact ⟨r', .step (ht.1 ▸ h) hi hr', hsome⟩

theorem Thread.alike_of_key (ht : t.address < prog.size) (hu : u.address < prog.size)
    (h : t.key prog = u.key prog) : t.Alike u := by
  unfold Thread.key at h
  have hpos : 0 < prog.size := by omega
  have haddress : t.address = u.address := by
    have hmod : (t.place * prog.size + t.address) % prog.size =
        (u.place * prog.size + u.address) % prog.size := by rw [h]
    rwa [Nat.mul_add_mod_self_right, Nat.mul_add_mod_self_right, Nat.mod_eq_of_lt ht,
      Nat.mod_eq_of_lt hu] at hmod
  have hplace : t.place * prog.size = u.place * prog.size := by omega
  exact ⟨haddress, Nat.eq_of_mul_eq_mul_right hpos hplace⟩

/-- What is not remembered yet. -/
def untaken (prog : Program) (hay : Array Char) (taken : Std.HashSet Nat) : Finset Nat :=
  (Finset.range (prog.size * (hay.size + 1))).filter fun key => taken.contains key = false

theorem untaken_card_le (taken : Std.HashSet Nat) :
    (untaken prog hay taken).card ≤ prog.size * (hay.size + 1) := by
  have h := Finset.card_filter_le (Finset.range (prog.size * (hay.size + 1)))
    fun key => taken.contains key = false
  rwa [Finset.card_range] at h

theorem key_lt (ht : t.address < prog.size) (hplace : t.place ≤ hay.size) :
    t.key prog < prog.size * (hay.size + 1) := by
  have hle : t.place * prog.size ≤ hay.size * prog.size := Nat.mul_le_mul_right _ hplace
  have hmul : prog.size * (hay.size + 1) = hay.size * prog.size + prog.size := by ring
  unfold Thread.key
  omega

/-- Remembering one more leaves less to take. -/
theorem untaken_insert_lt {taken : Std.HashSet Nat} {key : Nat} (hnew : taken.contains key = false)
    (hkey : key < prog.size * (hay.size + 1)) :
    (untaken prog hay (taken.insert key)).card < (untaken prog hay taken).card := by
  apply Finset.card_lt_card
  rw [Finset.ssubset_iff_of_subset]
  · refine ⟨key, ?_, ?_⟩
    · exact Finset.mem_filter.mpr ⟨Finset.mem_range.mpr hkey, hnew⟩
    · simp [untaken]
  · intro other hother
    obtain ⟨hrange, hfree⟩ := Finset.mem_filter.mp hother
    rw [Std.HashSet.contains_insert, Bool.or_eq_false_iff] at hfree
    exact Finset.mem_filter.mpr ⟨hrange, hfree.2⟩

/-- An instruction leads to at most two ways, and none of them beyond the text. -/
theorem after_bounds (hplace : t.place ≤ hay.size) (i : Instr) :
    (t.after hay i).length ≤ 2 ∧ ∀ u ∈ t.after hay i, u.place ≤ hay.size := by
  have hread {c : Char} (h : hay[t.place]? = some c) : t.place + 1 ≤ hay.size := by
    obtain ⟨hlt, -⟩ := Array.getElem?_eq_some_iff.mp h
    exact hlt
  cases i with
  | set s next =>
    simp only [Thread.after]
    split
    next c hc =>
      split
      · exact ⟨Nat.le_succ 1, by simpa using hread hc⟩
      · exact ⟨Nat.zero_le 2, nofun⟩
    next => exact ⟨Nat.zero_le 2, nofun⟩
  | char c next =>
    simp only [Thread.after]
    split
    next hc => exact ⟨Nat.le_succ 1, by simpa using hread hc⟩
    next => exact ⟨Nat.zero_le 2, nofun⟩
  | look l next =>
    simp only [Thread.after]
    split
    · exact ⟨Nat.le_succ 1, by simpa using hplace⟩
    · exact ⟨Nat.zero_le 2, nofun⟩
  | jump next | enter next | leave next =>
    exact ⟨Nat.le_succ 1, by simpa [Thread.after] using hplace⟩
  | split first second => exact ⟨Nat.le_refl 2, by simpa [Thread.after] using hplace⟩
  | accept => exact ⟨Nat.zero_le 2, nofun⟩

/-- Everything that is remembered leads nowhere. -/
def Barren (prog : Program) (hay : Array Char) (taken : Std.HashSet Nat) : Prop :=
  ∀ t : Thread, t.address < prog.size → taken.contains (t.key prog) = true →
    ∃ n, Halts prog hay n [t] none

/-- What is remembered while a run that ends with `r` has `n` steps to go: a way leads nowhere, or it
is one that `r` came along, which takes longer than the rest of the run. -/
def Remembers (prog : Program) (hay : Array Char) (n : Nat) (r : Option Thread)
    (taken : Std.HashSet Nat) : Prop :=
  ∀ t : Thread, t.address < prog.size → taken.contains (t.key prog) = true →
    (∃ k, Halts prog hay k [t] none) ∨
      r.isSome = true ∧ ∃ k u, n < k ∧ Halts prog hay k [t] (some u)

theorem Barren.remembers {taken : Std.HashSet Nat} (h : Barren prog hay taken) (n : Nat)
    (r : Option Thread) : Remembers prog hay n r taken :=
  fun t ht hkey => Or.inl (h t ht hkey)

theorem Remembers.barren {taken : Std.HashSet Nat} (h : Remembers prog hay n none taken) :
    Barren prog hay taken :=
  fun t ht hkey => (h t ht hkey).resolve_right fun hsome => nomatch hsome.1

theorem Remembers.mono {m : Nat} {taken : Std.HashSet Nat} (h : Remembers prog hay n r taken)
    (hm : m ≤ n) : Remembers prog hay m r taken := by
  intro t ht hkey
  rcases h t ht hkey with hnone | ⟨hr, k, u, hk, hsome⟩
  · exact Or.inl hnone
  · exact Or.inr ⟨hr, k, u, by omega, hsome⟩

/-- A way may be remembered as soon as it is taken. -/
theorem Remembers.insert {taken : Std.HashSet Nat} (h : Remembers prog hay (n + 1) r taken)
    (ht : t.address < prog.size) (hrun : Halts prog hay (n + 1) (t :: stack) r) :
    Remembers prog hay n r (taken.insert (t.key prog)) := by
  intro u hu hkey
  rw [Std.HashSet.contains_insert, Bool.or_eq_true] at hkey
  rcases hkey with hkey | hkey
  · have halike : List.Forall₂ Thread.Alike [t] [u] :=
      .cons (Thread.alike_of_key ht hu (by simpa using hkey)) .nil
    rcases hrun.of_cons with ⟨k, m, -, hnone, -⟩ | ⟨v, hv, hsome⟩
    · obtain ⟨r', hr', hisSome⟩ := hnone.of_alike halike
      obtain rfl : r' = none := Option.not_isSome_iff_eq_none.mp (by simp [hisSome])
      exact Or.inl ⟨k, hr'⟩
    · obtain ⟨r', hr', hisSome⟩ := hsome.of_alike halike
      obtain ⟨w, rfl⟩ := Option.isSome_iff_exists.mp (hisSome.trans rfl)
      exact Or.inr ⟨by rw [hv]; rfl, n + 1, w, by omega, hr'⟩
  · exact (h.mono (Nat.le_succ n)) u hu hkey

/-- A way that is remembered can be left out. -/
theorem Remembers.skip {taken : Std.HashSet Nat} (h : Remembers prog hay n r taken)
    (ht : t.address < prog.size) (hkey : taken.contains (t.key prog) = true)
    (hrun : Halts prog hay n (t :: stack) r) : ∃ m ≤ n, Halts prog hay m stack r := by
  rcases hrun.of_cons with ⟨k, m, hn, -, hrest⟩ | ⟨v, -, hsome⟩
  · exact ⟨m, by omega, hrest⟩
  · -- Not so on the way to the end: it would come back to itself with fewer steps to go.
    rcases h t ht hkey with ⟨k, hnone⟩ | ⟨-, k, u, hk, hsome'⟩
    · cases (hsome.unique hnone).2
    · have hlen := (hsome.unique hsome').1
      omega

theorem address_lt (h : Halts prog hay n (t :: stack) r) : t.address < prog.size := by
  cases h with
  | accept h => exact (Array.getElem?_eq_some_iff.mp h).1
  | step h => exact (Array.getElem?_eq_some_iff.mp h).1

theorem explore_step {fuel : Nat} {taken : Std.HashSet Nat} {i : Instr}
    (hkey : ¬ taken.contains (t.key prog) = true) (h : prog[t.address]? = some i)
    (hi : i ≠ .accept) :
    explore prog hay (fuel + 1) taken (t :: stack) =
      explore prog hay fuel (taken.insert (t.key prog)) (t.after hay i ++ stack) := by
  rw [explore, if_neg hkey, h]
  cases i with
  | accept => contradiction
  | _ => rfl

/-- With its memory the machine ends as it does without, within the steps it is given. -/
theorem explore_of_halts {fuel : Nat} {taken : Std.HashSet Nat}
    (hrun : Halts prog hay n stack r) (hplaces : ∀ t ∈ stack, t.place ≤ hay.size)
    (hfuel : 2 * (untaken prog hay taken).card + stack.length < fuel)
    (htaken : Remembers prog hay n r taken) :
    (explore prog hay fuel taken stack).1 = r ∧
      (r = none → Barren prog hay (explore prog hay fuel taken stack).2) := by
  induction fuel generalizing n stack taken with
  | zero => omega
  | succ fuel ih =>
    cases stack with
    | nil =>
      cases hrun
      exact ⟨rfl, fun _ => htaken.barren⟩
    | cons t stack =>
      have ht := address_lt hrun
      have hplace := hplaces t List.mem_cons_self
      have hstack : ∀ u ∈ stack, u.place ≤ hay.size :=
        fun u hu => hplaces u (List.mem_cons_of_mem t hu)
      rw [List.length_cons] at hfuel
      by_cases hkey : taken.contains (t.key prog) = true
      · rw [explore, if_pos hkey]
        obtain ⟨m, hm, hrest⟩ := htaken.skip ht hkey hrun
        exact ih hrest hstack (by omega) (htaken.mono hm)
      · cases hrun with
        | accept h =>
          rw [explore, if_neg hkey, h]
          exact ⟨rfl, nofun⟩
        | @step _ _ _ _ i h hi hr =>
          rw [explore_step hkey h hi]
          have hlt := untaken_insert_lt (by simpa using hkey) (key_lt ht hplace)
          obtain ⟨hlength, hafter⟩ := after_bounds hplace i
          refine ih hr ?_ ?_ (htaken.insert ht (.step h hi hr))
          · intro u hu
            rcases List.mem_append.mp hu with hu | hu
            · exact hafter u hu
            · exact hstack u hu
          · rw [List.length_append]
            omega

/-- The match of a way that accepted, if there is one. -/
def matchOf (start : Nat) (r : Option Thread) : Option Match :=
  r.map fun t => ⟨⟨start, t.place⟩, t.group⟩

/-- Wherever the machine halts from every place, a search tries the places in order. -/
theorem firstMatch_of_halts {result : Nat → Option Thread}
    (hrun : ∀ start ≤ hay.size, ∃ n, Halts prog hay n [⟨0, start, 0, none⟩] (result start))
    {count start : Nat} {taken : Std.HashSet Nat} (hcount : start + count ≤ hay.size + 1)
    (htaken : Barren prog hay taken) :
    firstMatch prog hay count start taken =
      (List.range' start count).findSome? fun place => matchOf place (result place) := by
  induction count generalizing start taken with
  | zero => rfl
  | succ count ih =>
    have hstart : start ≤ hay.size := by omega
    obtain ⟨n, hn⟩ := hrun start hstart
    have hfuel : 2 * (untaken prog hay taken).card + 1 < exploreFuel prog hay := by
      have hcard := @untaken_card_le prog hay taken
      unfold exploreFuel
      omega
    obtain ⟨hfound, hbarren⟩ := explore_of_halts hn (by simpa using hstart) hfuel
      (htaken.remembers n (result start))
    rw [firstMatch, List.range'_succ, List.findSome?_cons]
    generalize explore prog hay (exploreFuel prog hay) taken [⟨0, start, 0, none⟩] = outcome
      at hfound hbarren ⊢
    obtain ⟨found, taken'⟩ := outcome
    dsimp only at hfound hbarren
    subst hfound
    cases hresult : result start with
    | none => exact ih (by omega) (hbarren hresult)
    | some t => rfl

theorem search_of_halts {result : Nat → Option Thread}
    (hrun : ∀ start ≤ hay.size, ∃ n, Halts prog hay n [⟨0, start, 0, none⟩] (result start))
    {start : Nat} (hstart : start ≤ hay.size + 1) :
    search prog hay start = (List.range' start (hay.size + 1 - start)).findSome?
      fun place => matchOf place (result place) := by
  apply firstMatch_of_halts hrun (by omega)
  intro t _ hkey
  rw [Std.HashSet.contains_empty] at hkey
  contradiction

end RollCall.Regex
