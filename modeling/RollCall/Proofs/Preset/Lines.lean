import RollCall.Proofs.Preset.Tokens
import RollCall.Proofs.Tally

/-! The presets and lines. What a preset takes is made of characters that no line end has, and is taken
again wherever it stands alone. So a text may be searched as a whole or line by line, and what was
found in it is found again in a list of it. -/
namespace RollCall

open Regex

variable {length? : List Char → Option Nat} {cs rest x : List Char} {n : Nat}

/-- A scanner of words that are made of pod characters and end where these end. -/
structure TakesPodChars (length? : List Char → Option Nat) : Prop where
  takes : ∀ cs n, length? cs = some n → 0 < n ∧ n ≤ cs.length
  inside : ∀ cs n, length? cs = some n → ∀ c ∈ cs.take n, isPodChar c = true
  /-- A word that stands alone is a word. -/
  alone : ∀ cs n, length? cs = some n → length? (cs.take n) = some n
  /-- What comes after other characters does not matter to a word before them. -/
  boundary : ∀ as rest, (∀ c ∈ rest.head?, isPodChar c = false) → length? (as ++ rest) = length? as

section Presets

theorem boundary_cons {c : Char} (hc : isPodChar c = false) (rest : List Char) :
    ∀ d ∈ (c :: rest).head?, isPodChar d = false := fun _ hd => Option.some.inj hd ▸ hc

theorem takeWhile_isPodChar_append (as : List Char) (hrest : ∀ c ∈ rest.head?, isPodChar c = false) :
    (as ++ rest).takeWhile isPodChar = as.takeWhile isPodChar := by
  induction as with
  | nil => exact takeWhile_append_of_boundary nofun hrest
  | cons c as ih => rw [List.cons_append, List.takeWhile_cons, List.takeWhile_cons, ih]

theorem stem_prefix_takeWhile_iff : stem <+: cs.takeWhile isPodChar ↔ stem <+: cs := by
  constructor
  · exact fun h => h.trans (List.takeWhile_prefix isPodChar)
  · intro h
    rw [takeWhile_isPodChar_of_stem h]
    exact List.prefix_append _ _

/-- Only the pod characters at the beginning matter to a pod name. -/
theorem podNameLength?_of_takeWhile_eq {as : List Char}
    (h : as.takeWhile isPodChar = cs.takeWhile isPodChar) : podNameLength? as = podNameLength? cs := by
  have hstem : stem <+: as ↔ stem <+: cs := by
    rw [← stem_prefix_takeWhile_iff, h, stem_prefix_takeWhile_iff]
  simp only [podNameLength?, h, hstem]

theorem takesPodChars_podName : TakesPodChars podNameLength? where
  takes cs n h := by
    obtain ⟨hstem, hle, -⟩ := podNameLength?_eq_some h
    exact ⟨Nat.lt_of_le_of_lt (Nat.zero_le _) hstem, hle⟩
  inside cs n h := by
    rw [(podNameLength?_eq_some h).2.2]
    exact fun c hc => List.mem_takeWhile_imp hc
  alone cs n h := by
    rw [(podNameLength?_eq_some h).2.2, ← h]
    exact podNameLength?_of_takeWhile_eq List.takeWhile_idem
  boundary as rest hrest :=
    podNameLength?_of_takeWhile_eq (takeWhile_isPodChar_append as hrest)

theorem takesPodChars_version : TakesPodChars versionLength? where
  takes := versionLength?_takes
  inside cs n h := by
    obtain ⟨rfl, hname⟩ := versionLength?_eq_some h
    exact List.all_eq_true.mp (isPodChar_of_mem_versionNames _ hname)
  alone cs n h := by
    obtain ⟨rfl, hname⟩ := versionLength?_eq_some h
    rw [versionLength?, List.take_take, Nat.min_self, if_pos hname]
  boundary as rest hrest := versionLength?_append as hrest

def Preset.wordLength? : Preset → List Char → Option Nat
  | .podName => podNameLength?
  | .version => versionLength?

theorem Preset.takesPodChars (preset : Preset) : TakesPodChars preset.wordLength? := by
  cases preset with
  | podName => exact takesPodChars_podName
  | version => exact takesPodChars_version

theorem Preset.exists_ofSource (preset : Preset) : ∃ p, Pattern.ofSource preset.source = .ok p ∧
    ∀ text, p.identifiers text = (words preset.wordLength? text.toList).map String.ofList := by
  cases preset with
  | podName => exact ⟨_, ofSource_podName, identifiers_podName ofSource_podName⟩
  | version => exact ⟨_, ofSource_version, identifiers_version ofSource_version⟩

end Presets

namespace TakesPodChars

theorem words_append (h : TakesPodChars length?) (as : List Char)
    (hrest : ∀ c ∈ rest.head?, isPodChar c = false) :
    words length? (as ++ rest) = words length? as ++ words length? rest :=
  Regex.words_append h.takes (fun as => h.boundary as rest hrest) as

theorem nil (h : TakesPodChars length?) : length? [] = none := by
  rw [Option.eq_none_iff_forall_ne_some]
  intro n hn
  obtain ⟨hpos, hle⟩ := h.takes [] n hn
  rw [List.length_nil] at hle
  omega

theorem words_cons (h : TakesPodChars length?) {c : Char} (hc : isPodChar c = false)
    (rest : List Char) : words length? (c :: rest) = words length? rest := by
  have hnone : length? (c :: rest) = length? [] :=
    h.boundary [] (c :: rest) (boundary_cons hc rest)
  exact words_of_none (hnone.trans h.nil)

/-- The words of a text are those of its lines. -/
theorem words_split (h : TakesPodChars length?) (cs : List Char) :
    (Lines.split '\n' '\r' cs).flatMap (words length?) = words length? cs := by
  induction cs using Lines.byLines '\n' with
  | last line hline =>
    by_cases hne : line = []
    · rw [hne]
      rfl
    · rw [Lines.split_lastLine hline hne, List.flatMap_singleton]
  | more line rest hline ih =>
    have hchomp : words length? line = words length? (Lines.chomp '\r' line) := by
      rcases Lines.eq_chomp_or '\r' line with hcr | hcr
      · rw [← hcr]
      · have happend := h.words_append (Lines.chomp '\r' line) (@boundary_cons '\r' rfl [])
        rw [h.words_cons rfl, words_nil, List.append_nil, ← hcr] at happend
        exact happend
    rw [Lines.split_line hline, List.flatMap_cons, ih, h.words_append line (boundary_cons rfl rest),
      h.words_cons rfl, hchomp]

/-- A word that stands alone is the one word there. -/
theorem words_of_mem (h : TakesPodChars length?) (hx : x ∈ words length? cs) :
    words length? x = [x] := by
  obtain ⟨rest, n, hword, rfl⟩ := exists_of_mem_wordsFrom hx
  obtain ⟨hpos, hle⟩ := h.takes rest n hword
  have hlength : (rest.take n).length = n := List.length_take_of_le hle
  rw [words_of_some (h.alone rest n hword) hpos hlength.ge, List.take_of_length_le hlength.le,
    List.drop_of_length_le hlength.le, words_nil]

theorem isPodChar_of_mem (h : TakesPodChars length?) (hx : x ∈ words length? cs) :
    ∀ c ∈ x, isPodChar c = true := by
  obtain ⟨rest, n, hword, rfl⟩ := exists_of_mem_wordsFrom hx
  exact h.inside rest n hword

end TakesPodChars

section Scan

variable {p : Pattern} {text written : String}

/-- The words that a preset takes line by line are those of the whole text. -/
theorem TakesPodChars.raw_scan (h : TakesPodChars length?)
    (hp : ∀ text, p.identifiers text = (words length? text.toList).map String.ofList)
    (text : String) : (p.scan text).raw = (words length? text.toList).map String.ofList := by
  rw [← h.words_split, List.map_flatMap]
  show (Lines.ofText text).flatMap p.identifiers = _
  rw [Lines.ofText, List.flatMap_map]
  congr 1
  funext line
  rw [hp, String.toList_ofList]

/-- With a preset, a text gives the same identifiers line by line and as a whole. -/
theorem presets_scan_undivided (preset : Preset) : ∃ p, Pattern.ofSource preset.source = .ok p ∧
    ∀ text, (p.scan text).raw = p.identifiers text := by
  obtain ⟨p, hp, hwords⟩ := preset.exists_ofSource
  refine ⟨p, hp, fun text => ?_⟩
  rw [preset.takesPodChars.raw_scan hwords, hwords]

theorem TakesPodChars.toList_mem_words (h : TakesPodChars length?)
    (hp : ∀ text, p.identifiers text = (words length? text.toList).map String.ofList)
    {name : String} (hname : name ∈ (p.scan text).unique) :
    name.toList ∈ words length? text.toList := by
  rw [Extraction.unique, Roster.mem_ofList, h.raw_scan hp] at hname
  obtain ⟨x, hx, rfl⟩ := List.mem_map.mp hname
  rwa [String.toList_ofList]

/-- A list of what was found is read back as it is. -/
theorem TakesPodChars.raw_scan_written (h : TakesPodChars length?)
    (hp : ∀ text, p.identifiers text = (words length? text.toList).map String.ofList)
    (hwritten : Lines.Written '\n' '\r' ((p.scan text).unique.names.map String.toList)
      written.toList) : (p.scan written).raw = (p.scan text).unique.names := by
  have hword {name : String} (hname : name ∈ (p.scan text).unique.names) :
      name.toList ∈ words length? text.toList := h.toList_mem_words hp hname
  have hplain : ∀ line ∈ (p.scan text).unique.names.map String.toList,
      Lines.Plain '\n' '\r' line := by
    refine List.forall_mem_map.mpr fun name hname => ?_
    have hinside := h.isPodChar_of_mem (hword hname)
    exact ⟨fun hlf => absurd (hinside _ hlf) (by decide),
      fun hcr => absurd (hinside _ (List.mem_of_getLast? hcr)) (by decide)⟩
  have hlines : Lines.ofText written = (p.scan text).unique.names := by
    rw [Lines.ofText, hwritten.split_eq (by decide) hplain, List.map_map]
    exact List.map_id'' (fun _ => String.ofList_toList) _
  have halone : ∀ name ∈ (p.scan text).unique.names, p.identifiers name = [name] := by
    intro name hname
    rw [hp, h.words_of_mem (hword hname), List.map_singleton, String.ofList_toList]
  calc
    _ = (p.scan text).unique.names.flatMap p.identifiers := congrArg _ hlines
    _ = (p.scan text).unique.names.flatMap (fun name => [name]) :=
      List.flatMap_congr halone
    _ = (p.scan text).unique.names := List.flatMap_singleton' _

/-- What a preset finds in a text, written in order on lines of their own, is found again in the same
order, each identifier once. So a check of a file against the list of its own identifiers succeeds
either way round, and if the list is the log, all counts are one. -/
theorem presets_fixed_point (preset : Preset) : ∃ p, Pattern.ofSource preset.source = .ok p ∧
    ∀ text written : String,
      Lines.Written '\n' '\r' ((p.scan text).unique.names.map String.toList) written.toList →
      (p.scan written).raw = (p.scan text).unique.names ∧ (p.scan written).raw.Nodup ∧
      (p.scan written).unique = (p.scan text).unique ∧
      ∀ (o : CheckOptions) (files : FileSystem) (now : Timestamp), o.pattern = p →
        (files.Holds o.podsFile text → files.Holds o.logFile written →
          ∃ r, o.check files now = .ok r ∧ r.report.success = true ∧
            r.report.occurrences = if o.showCounts then
              some ((p.scan text).unique.names.map fun name => (name, 1)) else none) ∧
        (files.Holds o.podsFile written → files.Holds o.logFile text →
          ∃ r, o.check files now = .ok r ∧ r.report.success = true) := by
  obtain ⟨p, hp, hwords⟩ := preset.exists_ofSource
  refine ⟨p, hp, fun text written hwritten => ?_⟩
  have hraw := preset.takesPodChars.raw_scan_written hwords hwritten
  have hnodup : (p.scan text).unique.names.Nodup :=
    (p.scan text).unique.ascending.imp fun hlt => ne_of_lt hlt
  have hunique : (p.scan written).unique = (p.scan text).unique := by
    rw [Extraction.unique, hraw, Roster.ofList_names]
  have hsame : p.identifierSet text = p.identifierSet written := by
    ext x
    rw [← Pattern.mem_unique_scan, ← Pattern.mem_unique_scan, hunique]
  refine ⟨hraw, hraw ▸ hnodup, hunique, ?_⟩
  rintro o files now rfl
  refine ⟨fun hpods hlog => ⟨_, CheckOptions.check_of_holds hpods hlog,
    CheckOptions.success_result_iff.mpr hsame, ?_⟩, fun hpods hlog => ⟨_,
    CheckOptions.check_of_holds hpods hlog, CheckOptions.success_result_iff.mpr hsame.symm⟩⟩
  have hcount : Tally.count (o.pattern.scan text).unique (o.pattern.scan written).raw =
      (o.pattern.scan text).unique.names.map fun name => (name, 1) := by
    rw [Tally.count_eq, hraw]
    refine List.map_congr_left fun name hname => ?_
    rw [occurrences, List.count_eq_one_of_mem hnodup hname]
  show (if o.showCounts then some (Tally.count _ _) else none) = _
  rw [hcount]

/-- Two versions in the wrong order, one of them twice and one as a part of a longer name. -/
def twoVersions : String := "reviews-v2 reviews-v12\r\nreviews-v2\n"

theorem unique_scan_twoVersions (hp : Pattern.ofSource Preset.version.source = .ok p) :
    (p.scan twoVersions).unique.names = ["reviews-v1", "reviews-v2"] := by
  have hwords : words versionLength? twoVersions.toList =
      ["reviews-v2".toList, "reviews-v1".toList, "reviews-v2".toList] := by decide
  have hraw := takesPodChars_version.raw_scan (identifiers_version hp) twoVersions
  rw [hwords] at hraw
  have hascending : ["reviews-v1", "reviews-v2"].Pairwise (· < ·) := by decide
  have hroster : (p.scan twoVersions).unique = ⟨_, hascending⟩ := by
    apply Roster.ext_mem
    intro x
    rw [Extraction.unique, Roster.mem_ofList, hraw, Roster.mem_def]
    simp only [List.map_cons, List.map_nil, String.ofList_toList, List.mem_cons,
      List.not_mem_nil, or_false]
    tauto
  rw [hroster]

/-- The versions of a text against the list of them, which is written with both line ends. -/
theorem presets_fixed_point_twoVersions : ∃ p, Pattern.ofSource Preset.version.source = .ok p ∧
    let written := "reviews-v1\r\nreviews-v2\n"
    let o : CheckOptions := ⟨"1".toUTF8, "22".toUTF8, p, true⟩
    let files : FileSystem := fun path =>
      .ok (if path.size = 1 then twoVersions.toUTF8 else written.toUTF8)
    Lines.Written '\n' '\r' ((p.scan twoVersions).unique.names.map String.toList)
      written.toList ∧
    (p.scan written).raw = ["reviews-v1", "reviews-v2"] ∧
    (∃ r, o.check files ⟨0, 0⟩ = .ok r ∧ r.report.success = true ∧
      r.report.occurrences = some [("reviews-v1", 1), ("reviews-v2", 1)]) ∧
    ∃ r, o.swapFiles.check files ⟨0, 0⟩ = .ok r ∧ r.report.success = true := by
  obtain ⟨p, hp, hfixed⟩ := presets_fixed_point .version
  have hnames := unique_scan_twoVersions hp
  have hwritten : Lines.Written '\n' '\r' ((p.scan twoVersions).unique.names.map String.toList)
      "reviews-v1\r\nreviews-v2\n".toList := by
    rw [hnames]
    exact .returnFeed (.feed .nil)
  obtain ⟨hraw, -, -, hcheck⟩ := hfixed twoVersions _ hwritten
  rw [hnames] at hraw hcheck
  exact ⟨p, hp, hwritten, hraw, (hcheck _ _ _ rfl).1 rfl rfl, (hcheck _ _ _ rfl).2 rfl rfl⟩

end Scan

end RollCall
