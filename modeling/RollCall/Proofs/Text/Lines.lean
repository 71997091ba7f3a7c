import RollCall.Proofs.Text.ByteOrder

/-! Splitting into lines before and after decoding: the lines of a file are the encoded lines of its
text, and a file is valid as a whole iff each of its lines is. -/
namespace RollCall.Lines

section Split

variable {α : Type} [DecidableEq α] {lf cr : α}

/-- A line without one carriage return at its end. -/
def chomp (cr : α) (line : List α) : List α := closeLine cr line.reverse

theorem chomp_append_cr (line : List α) : chomp cr (line ++ [cr]) = line := by
  simp [chomp, closeLine]

theorem chomp_append_of_ne {x : α} (h : x ≠ cr) (line : List α) :
    chomp cr (line ++ [x]) = line ++ [x] := by
  simp [chomp, closeLine, h]

/-- A line is what is left of it, perhaps with a carriage return. -/
theorem eq_chomp_or (cr : α) (line : List α) :
    line = chomp cr line ∨ line = chomp cr line ++ [cr] := by
  rcases List.eq_nil_or_concat line with rfl | ⟨init, x, rfl⟩
  · exact Or.inl rfl
  · rw [List.concat_eq_append]
    by_cases h : x = cr
    · subst x
      exact Or.inr (by rw [chomp_append_cr])
    · exact Or.inl (chomp_append_of_ne h init).symm

private theorem splitFrom_finished (finished : List (List α)) (current rest : List α) :
    splitFrom lf cr finished current rest =
      finished.reverse ++ splitFrom lf cr [] current rest := by
  induction rest generalizing finished current with
  | nil => cases current <;> simp [splitFrom]
  | cons x rest ih =>
    by_cases h : x = lf
    · simp only [splitFrom, h, if_true]
      rw [ih, ih [closeLine cr current]]
      simp
    · simp only [splitFrom, h, if_false]
      exact ih finished (x :: current)

private theorem splitFrom_line {line : List α} (h : lf ∉ line) (current rest : List α) :
    splitFrom lf cr [] current (line ++ rest) =
      splitFrom lf cr [] (line.reverse ++ current) rest := by
  induction line generalizing current with
  | nil => rfl
  | cons x line ih =>
    have hx : x ≠ lf := fun e => h (by simp [e])
    have hline : lf ∉ line := fun e => h (by simp [e])
    simp [splitFrom, hx, ih hline]

@[simp] theorem split_nil : split lf cr ([] : List α) = [] := rfl

/-- A last line without a line feed keeps its carriage return. -/
theorem split_lastLine {line : List α} (h : lf ∉ line) (hne : line ≠ []) :
    split lf cr line = [line] := by
  have hs : splitFrom lf cr [] [] (line ++ []) = splitFrom lf cr [] (line.reverse ++ []) [] :=
    splitFrom_line h [] []
  rw [List.append_nil, List.append_nil] at hs
  rw [split, hs]
  cases hr : line.reverse with
  | nil => exact absurd (List.reverse_eq_nil_iff.mp hr) hne
  | cons x xs => simp [splitFrom, ← hr]

theorem split_line {line : List α} (h : lf ∉ line) (rest : List α) :
    split lf cr (line ++ lf :: rest) = chomp cr line :: split lf cr rest := by
  rw [split, splitFrom_line h]
  simp only [splitFrom, if_true, List.append_nil]
  rw [splitFrom_finished]
  rfl

/-- A sequence is a last line, or a line with its line feed before a sequence. -/
@[elab_as_elim]
theorem byLines (lf : α) {motive : List α → Prop} (last : ∀ line, lf ∉ line → motive line)
    (more : ∀ line rest, lf ∉ line → motive rest → motive (line ++ lf :: rest)) (s : List α) :
    motive s := by
  by_cases h : lf ∈ s
  · obtain ⟨line, rest, hs, hline⟩ := List.eq_append_cons_of_mem h
    have hlt : rest.length < s.length := by
      rw [hs, List.length_append, List.length_cons]
      omega
    rw [hs]
    exact more line rest hline (byLines lf last more rest)
  · exact last s h
termination_by s.length

/-- After a line feed, splitting begins anew. -/
theorem split_append_feed (s t : List α) :
    split lf cr (s ++ lf :: t) = split lf cr (s ++ [lf]) ++ split lf cr t := by
  induction s using byLines lf with
  | last line h =>
    rw [split_line h, split_line h, split_nil]
    rfl
  | more line rest h ih =>
    rw [List.append_assoc, List.append_assoc, List.cons_append, List.cons_append, split_line h,
      split_line h, ih]
    rfl

/-- How a sequence reads as lines: a line ends at a line feed, one carriage return right before it
belongs to the line end, and what is left at the end is a line unless it is empty. -/
inductive Reads (lf cr : α) : List α → List (List α) → Prop
  | done : Reads lf cr [] []
  | last {line : List α} (h : lf ∉ line) (hne : line ≠ []) : Reads lf cr line [line]
  | feed {line rest : List α} {lines : List (List α)} (h : lf ∉ line)
      (hcr : line.getLast? ≠ some cr) (hrest : Reads lf cr rest lines) :
      Reads lf cr (line ++ lf :: rest) (line :: lines)
  | returnFeed {line rest : List α} {lines : List (List α)} (h : lf ∉ line)
      (hrest : Reads lf cr rest lines) :
      Reads lf cr (line ++ cr :: lf :: rest) (line :: lines)

theorem chomp_of_getLast? {line : List α} (h : line.getLast? ≠ some cr) :
    chomp cr line = line := by
  rcases eq_chomp_or cr line with hline | hline
  · exact hline.symm
  · rw [hline, List.getLast?_append] at h
    exact absurd rfl h

/-- A sequence reads as the lines that splitting it gives, and as no others. -/
theorem reads_iff (hne : cr ≠ lf) {s : List α} {lines : List (List α)} :
    Reads lf cr s lines ↔ lines = split lf cr s := by
  constructor
  · intro h
    induction h with
    | done => rfl
    | last h hne => rw [split_lastLine h hne]
    | feed h hcr _ ih => rw [split_line h, chomp_of_getLast? hcr, ih]
    | @returnFeed line rest lines h _ ih =>
      have hline : lf ∉ line ++ [cr] := by
        simp only [List.mem_append, List.mem_singleton, not_or]
        exact ⟨h, hne.symm⟩
      have hsplit : split lf cr (line ++ [cr] ++ lf :: rest) =
          chomp cr (line ++ [cr]) :: split lf cr rest := split_line hline rest
      rw [List.append_assoc, List.singleton_append, chomp_append_cr] at hsplit
      rw [hsplit, ih]
  · rintro rfl
    induction s using byLines lf with
    | last line h =>
      by_cases hline : line = []
      · rw [hline]
        exact .done
      · rw [split_lastLine h hline]
        exact .last h hline
    | more line rest h ih =>
      rw [split_line h]
      by_cases hcr : line.getLast? = some cr
      · obtain ⟨init, rfl⟩ := List.getLast?_eq_some_iff.mp hcr
        rw [chomp_append_cr, List.append_assoc, List.singleton_append]
        exact .returnFeed (fun hm => h (List.mem_append_left _ hm)) ih
      · rw [chomp_of_getLast? hcr]
        exact .feed h hcr ih

end Split

section Written

variable {α : Type} {lf cr : α}

theorem Reads.lf_notMem {s : List α} {lines : List (List α)} (h : Reads lf cr s lines) :
    ∀ line ∈ lines, lf ∉ line := by
  induction h with
  | done => exact nofun
  | last h => exact List.forall_mem_singleton.mpr h
  | feed h _ _ ih | returnFeed h _ ih => exact List.forall_mem_cons.mpr ⟨h, ih⟩

/-- A line that can be written with either line end: no line feed is in it, and no carriage return
at its end. -/
structure Plain (lf cr : α) (line : List α) : Prop where
  lf_notMem : lf ∉ line
  getLast?_ne : line.getLast? ≠ some cr

/-- How lines are written: each with a line feed or a carriage return and a line feed, the last one
also without, unless it is empty. -/
inductive Written (lf cr : α) : List (List α) → List α → Prop
  | nil : Written lf cr [] []
  | last {line : List α} (hne : line ≠ []) : Written lf cr [line] line
  | feed {line rest : List α} {lines : List (List α)} (hrest : Written lf cr lines rest) :
      Written lf cr (line :: lines) (line ++ lf :: rest)
  | returnFeed {line rest : List α} {lines : List (List α)} (hrest : Written lf cr lines rest) :
      Written lf cr (line :: lines) (line ++ cr :: lf :: rest)

theorem Written.reads {s : List α} {lines : List (List α)} (h : Written lf cr lines s)
    (plain : ∀ line ∈ lines, Plain lf cr line) : Reads lf cr s lines := by
  induction h with
  | nil => exact .done
  | last hne => exact .last (plain _ List.mem_cons_self).lf_notMem hne
  | feed _ ih =>
    obtain ⟨hline, hlines⟩ := List.forall_mem_cons.mp plain
    exact .feed hline.lf_notMem hline.getLast?_ne (ih hlines)
  | returnFeed _ ih =>
    obtain ⟨hline, hlines⟩ := List.forall_mem_cons.mp plain
    exact .returnFeed hline.lf_notMem (ih hlines)

/-- Reading undoes writing. -/
theorem Written.split_eq [DecidableEq α] (hne : cr ≠ lf) {s : List α} {lines : List (List α)}
    (h : Written lf cr lines s) (plain : ∀ line ∈ lines, Plain lf cr line) :
    split lf cr s = lines :=
  ((reads_iff hne).mp (h.reads plain)).symm

/-- Lines with a line feed after each. -/
theorem written_flatMap (lines : List (List α)) :
    Written lf cr lines (lines.flatMap (· ++ [lf])) := by
  induction lines with
  | nil => exact .nil
  | cons line lines ih =>
    rw [List.flatMap_cons, List.append_assoc]
    exact .feed ih

end Written

section Encode

variable {α β : Type} {lf cr : α} {lf' cr' : β} {f : α → List β}

/-- Each element has its own code, and only the two line-end elements have theirs in any code. -/
structure KeepsLineEnds (lf cr : α) (lf' cr' : β) (f : α → List β) : Prop where
  code_lf : f lf = [lf']
  code_cr : f cr = [cr']
  code_ne_nil : ∀ x, f x ≠ []
  lf_notMem : ∀ x, x ≠ lf → lf' ∉ f x
  cr_notMem : ∀ x, x ≠ cr → cr' ∉ f x

theorem KeepsLineEnds.lf_notMem_flatMap (k : KeepsLineEnds lf cr lf' cr' f) {line : List α}
    (h : lf ∉ line) : lf' ∉ line.flatMap f := by
  intro hm
  obtain ⟨x, hx, hfx⟩ := List.mem_flatMap.mp hm
  exact k.lf_notMem x (fun e => h (e ▸ hx)) hfx

variable [DecidableEq α] [DecidableEq β]

theorem KeepsLineEnds.chomp_flatMap (k : KeepsLineEnds lf cr lf' cr' f) (line : List α) :
    chomp cr' (line.flatMap f) = (chomp cr line).flatMap f := by
  rcases List.eq_nil_or_concat line with rfl | ⟨init, x, rfl⟩
  · rfl
  · rw [List.concat_eq_append, List.flatMap_append, List.flatMap_singleton]
    by_cases h : x = cr
    · rw [h, k.code_cr, chomp_append_cr, chomp_append_cr]
    · obtain hnil | ⟨ys, y, hy⟩ := List.eq_nil_or_concat (f x)
      · exact absurd hnil (k.code_ne_nil x)
      · rw [List.concat_eq_append] at hy
        have hne : y ≠ cr' := fun e => k.cr_notMem x h (by simp [hy, e])
        rw [chomp_append_of_ne h, hy, ← List.append_assoc, chomp_append_of_ne hne,
          List.flatMap_append, List.flatMap_singleton, hy, List.append_assoc]

/-- Encoding and splitting may change places. -/
theorem KeepsLineEnds.split_flatMap (k : KeepsLineEnds lf cr lf' cr' f) (s : List α) :
    split lf' cr' (s.flatMap f) = (split lf cr s).map (·.flatMap f) := by
  induction s using byLines lf with
  | last line h =>
    by_cases hne : line = []
    · simp [hne]
    · have hne' : line.flatMap f ≠ [] := by
        intro e
        obtain ⟨x, xs, rfl⟩ := List.exists_cons_of_ne_nil hne
        exact k.code_ne_nil x (List.append_eq_nil_iff.mp e).1
      rw [split_lastLine h hne, split_lastLine (k.lf_notMem_flatMap h) hne']
      rfl
  | more line rest h ih =>
    rw [List.flatMap_append, List.flatMap_cons, k.code_lf, List.singleton_append,
      split_line (k.lf_notMem_flatMap h), split_line h, ih, k.chomp_flatMap]
    rfl

end Encode

/-- A byte below 128 in the code of a character is all of it. -/
theorem toNat_of_mem_encode {b : UInt8} {c : Char} (hb : b.toNat < 128)
    (h : b ∈ String.utf8EncodeChar c) : c.toNat = b.toNat := by
  change c.val.toNat = b.toNat
  simp only [String.utf8EncodeChar] at h
  generalize c.val.toNat = v at *
  by_cases h1 : v ≤ 0x7F <;> by_cases h2 : v ≤ 0x7FF <;> by_cases h3 : v ≤ 0xFFFF <;>
    simp only [h1, h2, h3, if_true, if_false, List.mem_cons, List.not_mem_nil, or_false,
      ← UInt8.toNat_inj, UInt8.toNat_ofNat'] at h <;>
    omega

theorem keepsLineEnds_utf8 : KeepsLineEnds '\n' '\r' 0x0A 0x0D String.utf8EncodeChar where
  code_lf := rfl
  code_cr := rfl
  code_ne_nil _ := String.utf8EncodeChar_ne_nil
  lf_notMem x hx h := hx (Char.toNat_inj.mp (toNat_of_mem_encode (by decide) h))
  cr_notMem x hx h := hx (Char.toNat_inj.mp (toNat_of_mem_encode (by decide) h))

theorem bytesOf_ofList (cs : List Char) :
    Utf8.bytesOf (String.ofList cs) = cs.flatMap String.utf8EncodeChar := by
  rw [Utf8.bytesOf_eq_flatMap, String.toList_ofList]

/-- The lines of an encoded text are its encoded lines. -/
theorem ofBytes_toUTF8 (text : String) : ofBytes text.toUTF8 = (ofText text).map String.toUTF8 := by
  have h := keepsLineEnds_utf8.split_flatMap text.toList
  rw [← Utf8.bytesOf_eq_flatMap] at h
  unfold ofBytes ofText
  change (split 0x0A 0x0D (Utf8.bytesOf text)).map _ = _
  rw [h, List.map_map, List.map_map]
  apply List.map_congr_left
  intro line _
  apply ByteArray.ext
  apply Array.toList_inj.mp
  exact (bytesOf_ofList line).symm

theorem fromUTF8?_toUTF8 (s : String) : String.fromUTF8? s.toUTF8 = some s := by
  have hv : s.toUTF8.IsValidUTF8 := s.isValidUTF8
  simp only [String.fromUTF8?, hv, dif_pos]
  rfl

theorem fromUTF8?_eq_some_iff {bytes : ByteArray} {s : String} :
    String.fromUTF8? bytes = some s ↔ bytes = s.toUTF8 := by
  constructor
  · intro h
    unfold String.fromUTF8? at h
    split at h
    · rw [← Option.some.inj h]
      rfl
    · contradiction
  · rintro rfl
    exact fromUTF8?_toUTF8 s

theorem mapM_fromUTF8?_eq_some_iff {lines : List ByteArray} {texts : List String} :
    lines.mapM String.fromUTF8? = some texts ↔ lines = texts.map String.toUTF8 := by
  induction lines generalizing texts with
  | nil => cases texts <;> simp
  | cons line lines ih =>
    cases texts with
    | nil => simp [Option.bind_eq_some_iff]
    | cons text texts => simp [Option.bind_eq_some_iff, fromUTF8?_eq_some_iff, ih]

/-- Where every line is an encoded text, the whole is one. -/
theorem exists_bytesOf_of_lines (bytes : List UInt8) :
    (∀ line ∈ split 0x0A 0x0D bytes, ∃ s, line = Utf8.bytesOf s) → ∃ s, bytes = Utf8.bytesOf s := by
  induction bytes using byLines (0x0A : UInt8) with
  | last line h =>
    intro hlines
    by_cases hne : line = []
    · exact ⟨"", hne⟩
    · exact hlines line (by rw [split_lastLine h hne]; exact List.mem_singleton.mpr rfl)
  | more line rest h ih =>
    intro hlines
    rw [split_line h] at hlines
    obtain ⟨s, hs⟩ := hlines _ List.mem_cons_self
    obtain ⟨t, ht⟩ := ih fun l hl => hlines l (List.mem_cons_of_mem _ hl)
    have hjoin (u v : String) : Utf8.bytesOf u ++ 0x0A :: Utf8.bytesOf v =
        Utf8.bytesOf (String.ofList (u.toList ++ '\n' :: v.toList)) := by
      rw [bytesOf_ofList, List.flatMap_append, List.flatMap_cons, Utf8.bytesOf_eq_flatMap,
        Utf8.bytesOf_eq_flatMap]
      rfl
    rcases eq_chomp_or (0x0D : UInt8) line with hline | hline
    · exact ⟨_, by rw [hline, hs, ht, hjoin]⟩
    · have hcr : Utf8.bytesOf s ++ [0x0D] = Utf8.bytesOf (String.ofList (s.toList ++ ['\r'])) := by
        rw [bytesOf_ofList, List.flatMap_append, Utf8.bytesOf_eq_flatMap]
        rfl
      exact ⟨_, by rw [hline, hs, ht, hcr, hjoin]⟩

/-- Decoding line by line is decoding as a whole: it succeeds for the same files and gives the lines
of the text. -/
theorem mapM_fromUTF8?_ofBytes (bytes : ByteArray) :
    (ofBytes bytes).mapM String.fromUTF8? = (String.fromUTF8? bytes).map ofText := by
  cases hwhole : String.fromUTF8? bytes with
  | some text =>
    rw [fromUTF8?_eq_some_iff.mp hwhole, ofBytes_toUTF8]
    exact mapM_fromUTF8?_eq_some_iff.mpr rfl
  | none =>
    cases hlines : (ofBytes bytes).mapM String.fromUTF8? with
    | none => rfl
    | some texts =>
      have hall := mapM_fromUTF8?_eq_some_iff.mp hlines
      obtain ⟨s, hs⟩ := exists_bytesOf_of_lines bytes.data.toList fun line hline => by
        have hmem : (⟨line.toArray⟩ : ByteArray) ∈ ofBytes bytes := List.mem_map_of_mem hline
        rw [hall] at hmem
        obtain ⟨t, _, ht⟩ := List.mem_map.mp hmem
        exact ⟨t, by rw [Utf8.bytesOf, ht]⟩
      have hbytes : bytes = s.toUTF8 := ByteArray.ext (Array.toList_inj.mp hs)
      rw [fromUTF8?_eq_some_iff.mpr hbytes] at hwhole
      contradiction

end RollCall.Lines
