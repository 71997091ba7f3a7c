import Mathlib.Data.List.Permutation
import RollCall.Pattern
import RollCall.Proofs.Regex.Code

/-! The identifiers of a pattern without groups and conditions, as the words that a scanner reads:
it goes through a text from left to right, and takes a word wherever the pattern has a length. -/
namespace RollCall
namespace Regex

/-- The words of a text. Where `length?` gives the length of a word at the beginning of the rest, the
word is taken, and where it gives none, a character is passed over; `skip` characters belong to the
last word. -/
def wordsFrom (length? : List Char → Option Nat) : (skip : Nat) → List Char → List (List Char)
  | _, [] => []
  | skip + 1, _ :: cs => wordsFrom length? skip cs
  | 0, c :: cs =>
    match length? (c :: cs) with
    | some n => (c :: cs).take n :: wordsFrom length? (n - 1) cs
    | none => wordsFrom length? 0 cs

def words (length? : List Char → Option Nat) (cs : List Char) : List (List Char) :=
  wordsFrom length? 0 cs

section Words

variable {length? : List Char → Option Nat} {cs : List Char}

theorem wordsFrom_eq_words_drop (length? : List Char → Option Nat) (skip : Nat) (cs : List Char) :
    wordsFrom length? skip cs = words length? (cs.drop skip) := by
  induction cs generalizing skip with
  | nil => cases skip <;> rfl
  | cons c cs ih =>
    cases skip with
    | zero => rfl
    | succ skip => exact ih skip

@[simp] theorem words_nil : words length? [] = [] := rfl

theorem words_of_none (h : length? cs = none) : words length? cs = words length? cs.tail := by
  cases cs with
  | nil => rfl
  | cons c cs =>
    rw [words, wordsFrom, h]
    rfl

theorem words_of_some {n : Nat} (h : length? cs = some n) (hpos : 0 < n) (hle : n ≤ cs.length) :
    words length? cs = cs.take n :: words length? (cs.drop n) := by
  obtain ⟨m, rfl⟩ := Nat.exists_eq_add_of_lt hpos
  cases cs with
  | nil => contradiction
  | cons c cs =>
    rw [words, wordsFrom, h]
    dsimp only
    rw [wordsFrom_eq_words_drop]
    simp

/-- If what comes after does not matter to a word, the words of two texts are those of the one and
those of the other. -/
theorem words_append {rest : List Char}
    (hlength : ∀ cs n, length? cs = some n → 0 < n ∧ n ≤ cs.length)
    (hsame : ∀ cs, length? (cs ++ rest) = length? cs) (cs : List Char) :
    words length? (cs ++ rest) = words length? cs ++ words length? rest := by
  induction hn : cs.length using Nat.strongRecOn generalizing cs with
  | ind _ ih =>
    cases hword : length? cs with
    | none =>
      cases cs with
      | nil => rfl
      | cons c cs =>
        rw [words_of_none hword, words_of_none ((hsame _).trans hword)]
        exact ih cs.length (by simp [← hn]) cs rfl
    | some n =>
      obtain ⟨hpos, hle⟩ := hlength cs n hword
      have hle' : n ≤ (cs ++ rest).length := by
        rw [List.length_append]
        omega
      rw [words_of_some hword hpos hle, words_of_some ((hsame cs).trans hword) hpos hle',
        List.take_append_of_le_length hle, List.drop_append_of_le_length hle, List.cons_append,
        ih (cs.drop n).length (by rw [List.length_drop]; omega) _ rfl]

/-- A word was taken where the scanner gives its length. -/
theorem exists_of_mem_wordsFrom {skip : Nat} {x : List Char} (hx : x ∈ wordsFrom length? skip cs) :
    ∃ rest n, length? rest = some n ∧ x = rest.take n := by
  induction cs generalizing skip with
  | nil => cases skip <;> contradiction
  | cons c cs ih =>
    cases skip with
    | succ skip => exact ih hx
    | zero =>
      rw [wordsFrom] at hx
      cases hword : length? (c :: cs) with
      | none =>
        rw [hword] at hx
        exact ih hx
      | some n =>
        rw [hword] at hx
        rcases List.mem_cons.mp hx with rfl | hx
        · exact ⟨c :: cs, n, hword, rfl⟩
        · exact ih hx

/-- If no word begins within another one, the words are those at all places. -/
theorem words_eq_filterMap_tails (hlength : ∀ cs n, length? cs = some n → 0 < n ∧ n ≤ cs.length)
    (hapart : ∀ cs n, length? cs = some n → ∀ k, 0 < k → k < n → length? (cs.drop k) = none)
    (cs : List Char) :
    words length? cs = cs.tails.filterMap fun rest => (length? rest).map rest.take := by
  have hfrom (skip : Nat) (hskip : ∀ k < skip, length? (cs.drop k) = none) :
      wordsFrom length? skip cs =
        cs.tails.filterMap fun rest => (length? rest).map rest.take := by
    induction cs generalizing skip with
    | nil =>
      have hnil : length? [] = none := by
        rw [← Option.not_isSome_iff_eq_none, Option.isSome_iff_exists]
        rintro ⟨n, hn⟩
        obtain ⟨hpos, hle⟩ := hlength [] n hn
        rw [List.length_nil] at hle
        omega
      cases skip <;> simp [wordsFrom, hnil]
    | cons c cs ih =>
      rw [List.tails_cons, List.filterMap_cons]
      cases skip with
      | succ skip =>
        have hfirst : length? (c :: cs) = none := hskip 0 (Nat.succ_pos skip)
        rw [hfirst]
        exact ih skip fun k hk => hskip (k + 1) (by omega)
      | zero =>
        rw [wordsFrom]
        cases hfirst : length? (c :: cs) with
        | none => exact ih 0 nofun
        | some n =>
          have hrest := ih (n - 1) fun k hk => hapart (c :: cs) n hfirst (k + 1) (by omega) (by omega)
          exact congrArg ((c :: cs).take n :: ·) hrest
  exact hfrom 0 nofun

end Words

variable {e : Expr} {f : List Char → List Nat} {hay : Array Char}

def preferred (f : List Char → List Nat) (ahead : List Char) : Option Nat := (f ahead).head?

theorem Expr.Takes.preferred (hf : Expr.Takes f) {cs : List Char} {n : Nat}
    (h : preferred f cs = some n) : 0 < n ∧ n ≤ cs.length :=
  hf cs n (List.mem_of_head? h)

section Lengths

variable {g : List Char → List Nat}

theorem takes_set (s : CharSet) : Expr.Takes (Expr.setLengths s) := by
  intro cs n hn
  cases cs with
  | nil => contradiction
  | cons c cs =>
    rw [Expr.setLengths] at hn
    split at hn
    · obtain rfl := List.mem_singleton.mp hn
      exact ⟨Nat.one_pos, by simp⟩
    · contradiction

theorem takes_rounds (hf : Expr.Takes f) : Expr.Takes (Expr.roundsLengths f) := by
  intro cs
  induction hlength : cs.length using Nat.strongRecOn generalizing cs with
  | ind _ ih =>
    intro n hn
    rw [Expr.roundsLengths] at hn
    obtain ⟨m, hm, hn⟩ := List.mem_flatMap.mp hn
    have htakes := hf cs m hm
    rw [if_pos htakes] at hn
    rcases List.mem_append.mp hn with hn | hn
    · obtain ⟨k, hk, rfl⟩ := List.mem_map.mp hn
      have hrest := ih (cs.drop m).length (by rw [List.length_drop]; omega) _ rfl k hk
      rw [List.length_drop] at hrest
      omega
    · obtain rfl := List.mem_singleton.mp hn
      omega

theorem takes_text_seq (hg : Expr.Takes g) (stem : List Char) :
    Expr.Takes (Expr.seqLengths (Expr.textLengths stem) g) := by
  intro cs n hn
  obtain ⟨m, hm, hn⟩ := List.mem_flatMap.mp hn
  obtain ⟨k, hk, rfl⟩ := List.mem_map.mp hn
  have hrest := hg _ k hk
  rw [List.length_drop] at hrest
  omega

/-- After a text, the preferred length of the rest is added to it. -/
theorem preferred_text_seq (stem : List Char) (g : List Char → List Nat) (cs : List Char) :
    preferred (Expr.seqLengths (Expr.textLengths stem) g) cs =
      if stem.isPrefixOf cs then (preferred g (cs.drop stem.length)).map (stem.length + ·)
      else none := by
  unfold preferred Expr.seqLengths Expr.textLengths
  split
  · rw [List.flatMap_singleton, List.head?_map]
  · rfl

/-- Of the lengths of one or more characters of a set, the greatest is preferred. -/
theorem preferred_rounds_set (s : CharSet) (cs : List Char) :
    preferred (Expr.roundsLengths (Expr.setLengths s)) cs =
      match (cs.takeWhile s.contains).length with
      | 0 => none
      | n + 1 => some (n + 1) := by
  induction cs with
  | nil =>
    rw [preferred, Expr.roundsLengths]
    rfl
  | cons c cs ih =>
    rw [preferred, Expr.roundsLengths, Expr.setLengths, List.takeWhile_cons]
    cases hc : s.contains c with
    | false => rfl
    | true =>
      rw [if_pos rfl, if_pos rfl, List.flatMap_singleton, if_pos ⟨Nat.one_pos, by simp⟩,
        List.head?_append, List.head?_map]
      rw [preferred] at ih
      show Option.or (Option.map _ (Expr.roundsLengths (Expr.setLengths s) cs).head?) _ = _
      rw [ih, List.length_cons]
      cases (cs.takeWhile s.contains).length with
      | zero => rfl
      | succ n => exact congrArg some (Nat.add_comm 1 (n + 1))

end Lengths

def Span.part (hay : Array Char) (s : Span) : List Char :=
  (ahead hay s.start).take (s.stop - s.start)

/-- How a scanner walks through a text: it takes a word at the first place at which one begins, and
goes on where the word ends. -/
inductive Walk (Word : List Char → Nat → Prop) (hay : Array Char) :
    (start : Nat) → List Span → Prop
  | done {start : Nat} (h : ∀ k, start ≤ k → ∀ m, ¬ Word (ahead hay k) m) : Walk Word hay start []
  | word {start place n : Nat} {spans : List Span} (hplace : start ≤ place)
      (hfirst : ∀ k, start ≤ k → k < place → ∀ m, ¬ Word (ahead hay k) m)
      (hword : Word (ahead hay place) n) (hrest : Walk Word hay (place + n) spans) :
      Walk Word hay start (⟨place, place + n⟩ :: spans)

section Walk

variable {Word : List Char → Nat → Prop} {start : Nat} {spans : List Span}

/-- If no two words begin at one place, there is one walk only. -/
theorem Walk.unique (hword : ∀ cs n m, Word cs n → Word cs m → n = m) {spans' : List Span}
    (h : Walk Word hay start spans) (h' : Walk Word hay start spans') : spans = spans' := by
  induction h generalizing spans' with
  | done hnone =>
    cases h' with
    | done => rfl
    | word hplace _ hn => exact absurd hn (hnone _ hplace _)
  | @word start place n spans hplace hfirst hn _ ih =>
    cases h' with
    | done hnone => exact absurd hn (hnone _ hplace _)
    | @word _ place' n' spans' hplace' hfirst' hn' hrest' =>
      have hle : place' ≤ place := Nat.not_lt.mp fun hlt => hfirst' place hplace hlt n hn
      have hge : place ≤ place' := Nat.not_lt.mp fun hlt => hfirst place' hplace' hlt n' hn'
      obtain rfl := Nat.le_antisymm hle hge
      obtain rfl := hword _ n' n hn' hn
      rw [ih hrest']

/-- The spans are those of words, one after the other. -/
theorem Walk.word_of_mem (h : Walk Word hay start spans) {s : Span} (hs : s ∈ spans) :
    start ≤ s.start ∧ s.start ≤ s.stop ∧ Word (ahead hay s.start) (s.stop - s.start) := by
  induction h with
  | done => contradiction
  | @word start place n spans hplace hfirst hword hrest ih =>
    rcases List.mem_cons.mp hs with rfl | hs
    · exact ⟨hplace, Nat.le_add_right place n, by rwa [Nat.add_sub_cancel_left]⟩
    · obtain ⟨hstart, hrest⟩ := ih hs
      exact ⟨by omega, hrest⟩

theorem Walk.pairwise (h : Walk Word hay start spans) :
    spans.Pairwise fun s t => s.stop ≤ t.start := by
  induction h with
  | done => exact .nil
  | word _ _ _ hrest ih => exact .cons (fun t ht => (hrest.word_of_mem ht).1) ih

/-- Wherever a word begins, the walk is within one. -/
theorem Walk.exists_mem (h : Walk Word hay start spans) {k n : Nat} (hk : start ≤ k)
    (hword : Word (ahead hay k) n) : ∃ s ∈ spans, s.start ≤ k ∧ k < s.stop := by
  induction h with
  | done hnone => exact absurd hword (hnone k hk n)
  | @word start place m spans hplace hfirst hm _ ih =>
    by_cases hbefore : k < place
    · exact absurd hword (hfirst k hk hbefore n)
    by_cases hwithin : k < place + m
    · exact ⟨_, List.mem_cons_self, Nat.not_lt.mp hbefore, hwithin⟩
    · obtain ⟨s, hs, hspan⟩ := ih (Nat.not_lt.mp hwithin)
      exact ⟨s, List.mem_cons_of_mem _ hs, hspan⟩

/-- A place is within at most one span. -/
theorem Walk.eq_of_mem (h : Walk Word hay start spans) {s t : Span} (hs : s ∈ spans) (ht : t ∈ spans)
    {k : Nat} (hks : s.start ≤ k ∧ k < s.stop) (hkt : t.start ≤ k ∧ k < t.stop) : s = t := by
  induction h with
  | done => contradiction
  | @word start place n spans hplace hfirst hword hrest ih =>
    rcases List.mem_cons.mp hs with rfl | hs
    · rcases List.mem_cons.mp ht with rfl | ht
      · rfl
      · exact absurd (hrest.word_of_mem ht).1 (by have := hks.2; dsimp only at this; omega)
    · rcases List.mem_cons.mp ht with rfl | ht
      · exact absurd (hrest.word_of_mem hs).1 (by have := hkt.2; dsimp only at this; omega)
      · exact ih hs ht

theorem words_ahead_of_none {length? : List Char → Option Nat} {place : Nat} (hplace : start ≤ place)
    (hnone : ∀ k, start ≤ k → k < place → length? (ahead hay k) = none) :
    words length? (ahead hay start) = words length? (ahead hay place) := by
  induction place, hplace using Nat.le_induction with
  | base => rfl
  | succ place hplace ih =>
    rw [ih fun k hk hlt => hnone k hk (Nat.lt_succ_of_lt hlt),
      words_of_none (hnone place hplace (Nat.lt_succ_self place)), ahead_add, List.drop_one]

/-- A walk takes the words of the text. -/
theorem Walk.words_eq {length? : List Char → Option Nat}
    (hlength : ∀ cs n, length? cs = some n → 0 < n ∧ n ≤ cs.length)
    (h : Walk (fun cs n => length? cs = some n) hay start spans) :
    words length? (ahead hay start) = spans.map (Span.part hay) := by
  induction h with
  | @done start hnone =>
    have hend : ahead hay (start + hay.size) = [] := by
      rw [← List.length_eq_zero_iff, length_ahead]
      omega
    rw [words_ahead_of_none (Nat.le_add_right start hay.size)
      fun k hk _ => Option.eq_none_iff_forall_ne_some.mpr (hnone k hk), hend]
    rfl
  | @word start place n spans hplace hfirst hword _ ih =>
    obtain ⟨hpos, hle⟩ := hlength _ n hword
    rw [words_ahead_of_none hplace
      fun k hk hlt => Option.eq_none_iff_forall_ne_some.mpr (hfirst k hk hlt),
      words_of_some hword hpos hle, ← ahead_add, ih, List.map_cons, Span.part,
      Nat.add_sub_cancel_left]

end Walk

section Search

variable {start : Nat}

theorem preferred_of_search_none (he : e.Reaches f) (hf : Expr.Takes f)
    (hstart : start ≤ hay.size + 1) (h : search e.program hay start = none) {k : Nat}
    (hk : start ≤ k) : preferred f (ahead hay k) = none := by
  by_cases hsize : k ≤ hay.size
  · rw [search_of_reaches he hstart, List.findSome?_eq_none_iff] at h
    exact Option.map_eq_none_iff.mp (h k (List.mem_range'_1.mpr (by omega)))
  · rw [← Option.not_isSome_iff_eq_none, Option.isSome_iff_exists]
    rintro ⟨n, hn⟩
    have htakes := hf.preferred hn
    rw [length_ahead] at htakes
    omega

/-- A search finds the first place at which a word begins, and the word there. -/
theorem exists_of_search_some (he : e.Reaches f) (hstart : start ≤ hay.size + 1) {m : Match}
    (h : search e.program hay start = some m) :
    ∃ place n, m = ⟨⟨place, place + n⟩, none⟩ ∧ start ≤ place ∧
      preferred f (ahead hay place) = some n ∧
      ∀ k, start ≤ k → k < place → preferred f (ahead hay k) = none := by
  rw [search_of_reaches he hstart, List.findSome?_eq_some_iff] at h
  obtain ⟨before, place, after, hrange, hplace, hnone⟩ := h
  obtain ⟨n, hn, rfl⟩ := Option.map_eq_some_iff.mp hplace
  obtain ⟨count, hcount, rfl, hrest⟩ := List.range'_eq_append_iff.mp hrange
  obtain ⟨rfl, -, -⟩ := List.range'_eq_cons_iff.mp hrest.symm
  refine ⟨_, n, rfl, by omega, hn, fun k hk hlt => ?_⟩
  exact Option.map_eq_none_iff.mp (hnone k (List.mem_range'_1.mpr (by omega)))

end Search

/-- Successive matches are the words of a walk. -/
theorem exists_collectMatches (he : e.Reaches f) (hf : Expr.Takes f) {fuel start : Nat}
    {last : Option Nat} {found : List Match} (hstart : start ≤ hay.size)
    (hfuel : hay.size - start < fuel) :
    ∃ ms, collectMatches e.program hay fuel start last found = found.reverse ++ ms ∧
      Walk (fun cs n => preferred f cs = some n) hay start (ms.map Match.span) := by
  induction fuel generalizing start last found with
  | zero => omega
  | succ fuel ih =>
    have hstart' : start ≤ hay.size + 1 := Nat.le_succ_of_le hstart
    rw [collectMatches, nextMatch]
    cases hsearch : search e.program hay start with
    | none =>
      refine ⟨[], (List.append_nil _).symm, .done fun k hk n => ?_⟩
      rw [preferred_of_search_none he hf hstart' hsearch hk]
      exact nofun
    | some m =>
      obtain ⟨place, n, rfl, hplace, hword, hfirst⟩ := exists_of_search_some he hstart' hsearch
      obtain ⟨hpos, hle⟩ := hf.preferred hword
      rw [length_ahead] at hle
      have hne : ¬ (place = place + n ∧ last = some (place + n)) := by omega
      obtain ⟨ms, hms, hwalk⟩ :=
        @ih (place + n) (some (place + n)) (⟨⟨place, place + n⟩, none⟩ :: found) (by omega) (by omega)
      refine ⟨⟨⟨place, place + n⟩, none⟩ :: ms, ?_, .word hplace (fun k hk hlt m hm => ?_) hword hwalk⟩
      · dsimp only
        rw [if_neg hne]
        dsimp only
        rw [hms, List.reverse_cons, List.append_assoc, List.singleton_append]
      · rw [hfirst k hk hlt] at hm
        contradiction

end Regex

namespace Pattern

open Regex

variable {p : Pattern} {e : Expr} {f : List Char → List Nat}

theorem ofSource_of_parse {source : String} (h : Regex.parse source.toList = .ok e)
    (hsize : e.footprint ≤ sizeLimit) : ofSource source = .ok ⟨source, e.hasGroup, e.program⟩ := by
  rw [ofSource, h]
  exact if_neg (Nat.not_lt.mpr hsize)

/-- The first two letters. -/
def letterSet : CharSet := ⟨[⟨0x61, 0x62⟩]⟩

theorem ofSource_letters :
    ofSource "[ab]" = .ok ⟨"[ab]", false, (Expr.set letterSet).program⟩ := by
  have hparse : Regex.parse "[ab]".toList = .ok (.set letterSet) := by cbv
  exact ofSource_of_parse hparse (by decide)

theorem exists_ofSource_letters : ∃ p, ofSource "[ab]" = .ok p := ⟨_, ofSource_letters⟩

/-- The identifiers in a text are where a scanner takes its words. -/
theorem walk_identifierSpans (hprogram : p.program = e.program) (hgrouped : p.grouped = false)
    (he : e.Reaches f) (hf : Expr.Takes f) (hay : Array Char) :
    Walk (fun cs n => preferred f cs = some n) hay 0 (p.identifierSpans hay) := by
  obtain ⟨ms, hms, hwalk⟩ :=
    @exists_collectMatches e f hay he hf (hay.size + 2) 0 none [] (Nat.zero_le _) (by omega)
  have hmatches : allMatches p.program hay = ms := by
    rw [allMatches, hprogram]
    exact hms
  have hspan : p.identifierSpan = some ∘ Match.span := by
    funext m
    rw [identifierSpan, hgrouped]
    rfl
  have hall : ∀ s ∈ ms.map Match.span, decide (s.start < s.stop) = true := by
    intro s hs
    obtain ⟨-, -, hword⟩ := hwalk.word_of_mem hs
    have hpos := (hf.preferred hword).1
    exact decide_eq_true (by omega)
  rwa [identifierSpans, hmatches, hspan, List.filterMap_eq_map, List.filter_eq_self.mpr hall]

theorem identifiers_eq_map_part (p : Pattern) (text : String) :
    p.identifiers text = (p.identifierSpans text.toList.toArray).map fun s =>
      String.ofList (s.part text.toList.toArray) := by
  rw [identifiers]
  apply List.map_congr_left
  intro s _
  rw [Array.toList_extract, List.extract_eq_take_drop]
  rfl

/-- The identifiers in a text are its words. -/
theorem identifiers_eq_words (hprogram : p.program = e.program) (hgrouped : p.grouped = false)
    (he : e.Reaches f) (hf : Expr.Takes f) (text : String) :
    p.identifiers text = (words (preferred f) text.toList).map String.ofList := by
  have hwords := (walk_identifierSpans hprogram hgrouped he hf text.toList.toArray).words_eq
    fun _ _ => hf.preferred
  have hahead : ahead text.toList.toArray 0 = text.toList := rfl
  rw [identifiers_eq_map_part, ← hahead, hwords, List.map_map]
  rfl

theorem identifiers_letters (h : ofSource "[ab]" = .ok p) (text : String) :
    p.identifiers text =
      (words (preferred (Expr.setLengths letterSet)) text.toList).map String.ofList := by
  obtain rfl := Except.ok.inj (ofSource_letters.symm.trans h)
  exact identifiers_eq_words rfl rfl (Expr.reaches_set letterSet) (takes_set letterSet) text

end Pattern

end RollCall
