import RollCall.Proofs.Preset

/-! What the presets take out of a text, told by places. The first one takes pod names as a scanner
does that reads from left to right and takes each as long as it is; the second one takes the versions
at every place. -/
namespace RollCall

open Regex

/-- A pod name of this length begins the text: the stem, and then one or more of the characters of
pod names, up to the first other one. -/
inductive BeginsPodName : List Char → Nat → Prop
  | intro {run rest : List Char} (nonempty : run ≠ []) (inside : ∀ c ∈ run, isPodChar c = true)
      (boundary : ∀ c ∈ rest.head?, isPodChar c = false) :
      BeginsPodName (stem ++ run ++ rest) (stem.length + run.length)

variable {cs : List Char} {n : Nat}

theorem isPodChar_of_mem_stem : ∀ c ∈ stem, isPodChar c = true :=
  List.all_eq_true.mp (by decide)

theorem takeWhile_append_of_boundary {as rest : List Char} (inside : ∀ c ∈ as, isPodChar c = true)
    (boundary : ∀ c ∈ rest.head?, isPodChar c = false) :
    (as ++ rest).takeWhile isPodChar = as := by
  rw [List.takeWhile_append_of_pos inside]
  cases rest with
  | nil => exact List.append_nil as
  | cons c rest =>
    rw [List.takeWhile_cons_of_neg (by rw [boundary c rfl]; exact Bool.false_ne_true),
      List.append_nil]

theorem beginsPodName_iff : BeginsPodName cs n ↔ podNameLength? cs = some n := by
  constructor
  · intro h
    cases h with
    | @intro run rest nonempty inside boundary =>
      have hinside : ∀ c ∈ stem ++ run, isPodChar c = true :=
        List.forall_mem_append.mpr ⟨isPodChar_of_mem_stem, inside⟩
      have hpos := List.length_pos_iff.mpr nonempty
      have hstem : stem <+: stem ++ run ++ rest := by
        rw [List.append_assoc]
        exact List.prefix_append _ _
      rw [podNameLength?, takeWhile_append_of_boundary hinside boundary, List.length_append,
        if_pos ⟨hstem, by omega⟩]
  · intro h
    unfold podNameLength? at h
    split at h
    · next hpod =>
      obtain rfl := Option.some.inj h
      have hrun := takeWhile_isPodChar_of_stem hpod.1
      have hcs : stem ++ (cs.drop stem.length).takeWhile isPodChar ++
          cs.dropWhile isPodChar = cs := by
        rw [← hrun, List.takeWhile_append_dropWhile]
      have hlength := congrArg List.length hrun
      rw [List.length_append] at hlength
      have nonempty : (cs.drop stem.length).takeWhile isPodChar ≠ [] := by
        rw [← List.length_pos_iff]
        omega
      have boundary : ∀ c ∈ (cs.dropWhile isPodChar).head?, isPodChar c = false := by
        intro c hc
        have hhead := List.head?_dropWhile_not isPodChar cs
        rwa [hc] at hhead
      have hbegins := BeginsPodName.intro nonempty (fun c hc => List.mem_takeWhile_imp hc) boundary
      rwa [hcs, ← hlength] at hbegins
    · contradiction

/-- A pod name begins wherever the stem is followed by one of its characters. -/
theorem exists_beginsPodName {c : Char} (h : stem ++ [c] <+: cs) (hc : isPodChar c = true) :
    ∃ n, BeginsPodName cs n := by
  obtain ⟨rest, rfl⟩ := h
  have hlength : stem.length < ((stem ++ [c] ++ rest).takeWhile isPodChar).length := by
    have hinside : ∀ x ∈ stem ++ [c], isPodChar x = true :=
      List.forall_mem_append.mpr ⟨isPodChar_of_mem_stem, List.forall_mem_singleton.mpr hc⟩
    rw [List.takeWhile_append_of_pos hinside, List.length_append, List.length_append,
      List.length_singleton]
    omega
  have hstem : stem <+: stem ++ [c] ++ rest := by
    rw [List.append_assoc]
    exact List.prefix_append _ _
  exact ⟨_, beginsPodName_iff.mpr (if_pos ⟨hstem, hlength⟩)⟩

section Places

variable {hay : Array Char} {i k : Nat}

/-- No character of pod names follows a pod name. -/
theorem BeginsPodName.boundary (h : BeginsPodName (ahead hay i) n) :
    ∀ c ∈ hay[i + n]?, isPodChar c = false := by
  rw [getElem?_eq_head?, ahead_add]
  generalize ahead hay i = cs at h
  cases h with
  | intro nonempty inside boundary =>
    rw [← List.length_append, List.drop_left]
    exact boundary

/-- The characters of an occurrence are those of pod names. -/
theorem isPodChar_of_occurrence {c x : Char} (h : stem ++ [c] <+: ahead hay i)
    (hc : isPodChar c = true) (hk : i ≤ k) (hlt : k < i + (stem.length + 1)) (hx : x ∈ hay[k]?) :
    isPodChar x = true := by
  obtain ⟨rest, hrest⟩ := h
  obtain ⟨j, rfl⟩ := Nat.exists_eq_add_of_le hk
  have hj : j < (stem ++ [c]).length := by
    rw [List.length_append, List.length_singleton]
    omega
  rw [getElem?_eq_head?, ahead_add, List.head?_drop, ← hrest, List.getElem?_append_left hj] at hx
  rcases List.mem_append.mp (List.mem_of_getElem? hx) with hmem | hmem
  · exact isPodChar_of_mem_stem x hmem
  · rwa [List.mem_singleton.mp hmem]

end Places

theorem tails_eq_map_drop (cs : List Char) :
    cs.tails = (List.range (cs.length + 1)).map cs.drop := by
  apply List.ext_getElem
  · simp
  · intro i _ _
    simp

/-- The versions of a text are at all places where one begins. -/
theorem words_version_eq_filterMap_range (cs : List Char) :
    words versionLength? cs = (List.range (cs.length + 1)).filterMap fun i =>
      if (cs.drop i).take 10 ∈ versionNames then some ((cs.drop i).take 10) else none := by
  rw [words_eq_filterMap_tails versionLength?_takes versionLength?_apart, tails_eq_map_drop,
    List.filterMap_map]
  congr 1
  funext i
  rw [Function.comp_apply, versionLength?]
  split <;> rfl

section Patterns

variable {p v : Pattern}

theorem walk_podNames (h : Pattern.ofSource Preset.podName.source = .ok p) (hay : Array Char) :
    Walk BeginsPodName hay 0 (p.identifierSpans hay) := by
  have hp := Except.ok.inj (h.symm.trans ofSource_podName)
  have hrounds := (Expr.reaches_set podChars).rounds (takes_set podChars)
  have hwalk : Walk _ hay 0 (p.identifierSpans hay) := Pattern.walk_identifierSpans
    (congrArg Pattern.program hp) (congrArg Pattern.grouped hp)
    ((Expr.reaches_text stem).seq hrounds)
    (takes_text_seq (takes_rounds (takes_set podChars)) stem) hay
  rw [preferred_podName contains_podChars] at hwalk
  have hbegins : BeginsPodName = fun cs n => podNameLength? cs = some n := by
    funext cs n
    exact propext beginsPodName_iff
  rwa [hbegins]

/-- An occurrence of the stem with one more character lies within the pod name that it is in. -/
theorem exists_mem_of_occurrence {hay : Array Char} {spans : List Span}
    (h : Walk BeginsPodName hay 0 spans) {i : Nat} {c : Char}
    (hoccurs : stem ++ [c] <+: ahead hay i) (hc : isPodChar c = true) :
    ∃ s ∈ spans, s.start ≤ i ∧ i + (stem.length + 1) ≤ s.stop := by
  obtain ⟨n, hn⟩ := exists_beginsPodName hoccurs hc
  obtain ⟨s, hs, hstart, hstop⟩ := h.exists_mem (Nat.zero_le i) hn
  refine ⟨s, hs, hstart, ?_⟩
  by_contra hlt
  obtain ⟨-, hle, hname⟩ := h.word_of_mem hs
  -- The name ends at a character of the occurrence, so it could have gone on.
  have hsize : s.stop < hay.size := by
    have hlength := hoccurs.length_le
    rw [length_ahead, List.length_append, List.length_singleton] at hlength
    omega
  have hend : hay[s.stop]? = some hay[s.stop] := Array.getElem?_eq_getElem hsize
  have hboundary := hname.boundary hay[s.stop]
  rw [Nat.add_sub_cancel' hle] at hboundary
  have hinside := isPodChar_of_occurrence hoccurs hc (Nat.le_of_lt hstop) (Nat.not_le.mp hlt) hend
  rw [hboundary hend] at hinside
  contradiction

/-- What the first preset finds is what a scanner takes that goes from left to right and takes a pod
name, as long as it is, at the first place at which one begins: no name can go on to the right, and
an occurrence of the stem with one more character lies within exactly one of them. The second preset
finds the versions at all places, in order. -/
theorem presets_find_tokens : ∃ p v, Pattern.ofSource Preset.podName.source = .ok p ∧
    Pattern.ofSource Preset.version.source = .ok v ∧ ∀ text : String,
      let hay := text.toList.toArray
      (p.identifiers text = (p.identifierSpans hay).map fun s => String.ofList (s.part hay)) ∧
      (∀ spans, Walk BeginsPodName hay 0 spans ↔ spans = p.identifierSpans hay) ∧
      ((p.identifierSpans hay).Pairwise fun s t => s.stop ≤ t.start) ∧
      (∀ s ∈ p.identifierSpans hay, ∀ c ∈ hay[s.stop]?, isPodChar c = false) ∧
      (∀ i c, stem ++ [c] <+: text.toList.drop i → isPodChar c = true →
        ∃! s, s ∈ p.identifierSpans hay ∧ s.start ≤ i ∧ i + (stem.length + 1) ≤ s.stop) ∧
      v.identifiers text = ((List.range (text.toList.length + 1)).filterMap fun i =>
        if (text.toList.drop i).take 10 ∈ versionNames then some ((text.toList.drop i).take 10)
        else none).map String.ofList := by
  refine ⟨_, _, ofSource_podName, ofSource_version, fun text => ?_⟩
  have hwalk := walk_podNames ofSource_podName text.toList.toArray
  refine ⟨Pattern.identifiers_eq_map_part _ text, fun spans => ?_, hwalk.pairwise, fun s hs => ?_,
    fun i c hoccurs hc => ?_, ?_⟩
  · constructor
    · intro h
      refine h.unique (fun cs n m hn hm => ?_) hwalk
      rw [beginsPodName_iff] at hn hm
      exact Option.some.inj (hn.symm.trans hm)
    · rintro rfl
      exact hwalk
  · obtain ⟨-, hle, hname⟩ := hwalk.word_of_mem hs
    have hboundary := hname.boundary
    rwa [Nat.add_sub_cancel' hle] at hboundary
  · obtain ⟨s, hs, hstart, hstop⟩ := exists_mem_of_occurrence hwalk hoccurs hc
    refine ⟨s, ⟨hs, hstart, hstop⟩, ?_⟩
    rintro t ⟨ht, hstart', hstop'⟩
    exact hwalk.eq_of_mem ht hs ⟨hstart', by omega⟩ ⟨hstart, by omega⟩
  · rw [identifiers_version ofSource_version, words_version_eq_filterMap_range]

end Patterns

end RollCall
