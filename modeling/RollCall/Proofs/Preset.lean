import Mathlib
import RollCall.Proofs.Check
import RollCall.Proofs.Regex.Words

/-! What the presets find, as words of a text: pod names, each as long as it can be, and versions at
every place. The versions of a text are those of its pod names, so that files which agree on pod
names agree on versions. -/
namespace RollCall

open Regex

def stem : List Char := "reviews".toList

def isPodChar (c : Char) : Bool := c.isLower || c.isDigit || c = '-'

/-- The length of a pod name at the beginning of a text: it is all of the pod characters there,
which begin with the stem and are more than the stem. -/
def podNameLength? (cs : List Char) : Option Nat :=
  if stem <+: cs ∧ stem.length < (cs.takeWhile isPodChar).length then
    some (cs.takeWhile isPodChar).length
  else none

def versionNames : List (List Char) :=
  ["reviews-v1".toList, "reviews-v2".toList, "reviews-v3".toList]

def versionLength? (cs : List Char) : Option Nat :=
  if cs.take 10 ∈ versionNames then some 10 else none

variable {cs rest : List Char} {n : Nat}

section PodNames

theorem takeWhile_isPodChar_of_stem (h : stem <+: cs) :
    cs.takeWhile isPodChar = stem ++ (cs.drop stem.length).takeWhile isPodChar := by
  obtain ⟨rest, rfl⟩ := h
  have hstem : stem.all isPodChar = true := by decide
  rw [List.takeWhile_append_of_pos (List.all_eq_true.mp hstem), List.drop_left]

theorem podNameLength?_eq_some (h : podNameLength? cs = some n) :
    stem.length < n ∧ n ≤ cs.length ∧ cs.take n = cs.takeWhile isPodChar := by
  unfold podNameLength? at h
  split at h
  · next hpod =>
    obtain rfl := Option.some.inj h
    have hprefix := List.takeWhile_prefix isPodChar (l := cs)
    exact ⟨hpod.2, hprefix.length_le, (List.prefix_iff_eq_take.mp hprefix).symm⟩
  · contradiction

theorem preferred_podName {s : CharSet} (hs : s.contains = isPodChar) :
    preferred (Expr.seqLengths (Expr.textLengths stem) (Expr.roundsLengths (Expr.setLengths s))) =
      podNameLength? := by
  funext cs
  rw [preferred_text_seq, preferred_rounds_set, hs, podNameLength?]
  by_cases hstem : stem <+: cs
  · have hlength : (cs.takeWhile isPodChar).length =
        stem.length + ((cs.drop stem.length).takeWhile isPodChar).length := by
      rw [takeWhile_isPodChar_of_stem hstem, List.length_append]
    rw [if_pos (List.isPrefixOf_iff_prefix.mpr hstem), hlength]
    cases ((cs.drop stem.length).takeWhile isPodChar).length with
    | zero => rw [if_neg (by omega)]; rfl
    | succ k => rw [if_pos ⟨hstem, by omega⟩]; rfl
  · rw [if_neg (mt List.isPrefixOf_iff_prefix.mp hstem), if_neg fun h => hstem h.1]

end PodNames

section Versions

theorem length_of_mem_versionNames : ∀ name ∈ versionNames, name.length = 10 := by decide

theorem stem_prefix_of_mem_versionNames : ∀ name ∈ versionNames, stem <+: name := by decide

theorem isPodChar_of_mem_versionNames :
    ∀ name ∈ versionNames, name.all isPodChar = true := by decide

/-- The first character of a version does not occur in it again. -/
theorem head_of_mem_versionNames :
    ∀ name ∈ versionNames, ∀ k < 10, 0 < k → (name.drop k).head? ≠ some 'r' := by decide

theorem versionLength?_eq_some (h : versionLength? cs = some n) :
    n = 10 ∧ cs.take 10 ∈ versionNames := by
  unfold versionLength? at h
  split at h
  · next hname => exact ⟨(Option.some.inj h).symm, hname⟩
  · contradiction

theorem versionLength?_takes (cs : List Char) (n : Nat) (h : versionLength? cs = some n) :
    0 < n ∧ n ≤ cs.length := by
  obtain ⟨rfl, hname⟩ := versionLength?_eq_some h
  have hlength := length_of_mem_versionNames _ hname
  rw [List.length_take] at hlength
  omega

theorem versionLength?_apart (cs : List Char) (n : Nat) (h : versionLength? cs = some n) (k : Nat)
    (hpos : 0 < k) (hk : k < n) : versionLength? (cs.drop k) = none := by
  obtain ⟨rfl, hname⟩ := versionLength?_eq_some h
  refine if_neg fun hinner => head_of_mem_versionNames _ hname k hk hpos ?_
  have hhead : ((cs.drop k).take 10).head? = some 'r' := by
    generalize (cs.drop k).take 10 = name at hinner
    revert name
    decide
  rw [List.head?_drop, List.getElem?_take_of_lt hk]
  rwa [List.head?_take, if_neg (by decide), List.head?_drop] at hhead

theorem preferred_version {s : CharSet}
    (hs : ∀ c, s.contains c = true ↔ "reviews-v".toList ++ [c] ∈ versionNames) :
    preferred (Expr.seqLengths (Expr.textLengths "reviews-v".toList) (Expr.setLengths s)) =
      versionLength? := by
  funext cs
  rw [preferred_text_seq, versionLength?]
  by_cases hprefix : "reviews-v".toList <+: cs
  · rw [if_pos (List.isPrefixOf_iff_prefix.mpr hprefix)]
    obtain ⟨rest, rfl⟩ := hprefix
    rw [List.drop_left]
    cases rest with
    | nil =>
      rw [List.append_nil]
      rfl
    | cons c rest =>
      have htake : ("reviews-v".toList ++ c :: rest).take 10 = "reviews-v".toList ++ [c] := rfl
      rw [htake, preferred, Expr.setLengths]
      by_cases hc : s.contains c = true
      · rw [if_pos hc, if_pos ((hs c).mp hc)]
        rfl
      · rw [if_neg hc, if_neg (mt (hs c).mpr hc)]
        rfl
  · rw [if_neg (mt List.isPrefixOf_iff_prefix.mp hprefix), if_neg]
    intro hname
    apply hprefix
    apply List.IsPrefix.trans _ (List.take_prefix 10 cs)
    generalize cs.take 10 = name at hname
    revert name
    decide

/-- What comes after the pod characters does not matter to the versions in them. -/
theorem versionLength?_append (as : List Char) (hrest : ∀ c ∈ rest.head?, isPodChar c = false) :
    versionLength? (as ++ rest) = versionLength? as := by
  by_cases hlength : 10 ≤ as.length
  · rw [versionLength?, versionLength?, List.take_append_of_le_length hlength]
  · cases rest with
    | nil => rw [List.append_nil]
    | cons c rest =>
      have has : as.take 10 ∉ versionNames := by
        intro hname
        have := length_of_mem_versionNames _ hname
        rw [List.length_take] at this
        omega
      have hboth : (as ++ c :: rest).take 10 ∉ versionNames := by
        intro hname
        have hmem : c ∈ (as ++ c :: rest).take 10 :=
          List.mem_take_iff_getElem.mpr ⟨as.length, by simp; omega, by simp⟩
        have hc := List.all_eq_true.mp (isPodChar_of_mem_versionNames _ hname) c hmem
        rw [hrest c rfl] at hc
        contradiction
      rw [versionLength?, versionLength?, if_neg has, if_neg hboth]

end Versions

/-- The versions in pod characters and in the rest are those in the whole. -/
theorem words_version_append (as : List Char) (hrest : ∀ c ∈ rest.head?, isPodChar c = false) :
    words versionLength? (as ++ rest) = words versionLength? as ++ words versionLength? rest :=
  words_append versionLength?_takes (fun as => versionLength?_append as hrest) as

/-- A version begins a pod name. -/
theorem versionLength?_of_podNameLength? (h : podNameLength? cs = none) :
    versionLength? cs = none := by
  refine if_neg fun hname => ?_
  have hstem : stem <+: cs := (stem_prefix_of_mem_versionNames _ hname).trans (List.take_prefix 10 cs)
  have hlength : 10 ≤ (cs.takeWhile isPodChar).length := by
    have htake : (cs.takeWhile isPodChar).take 10 = cs.take 10 := by
      rw [List.take_takeWhile]
      exact List.takeWhile_eq_self_iff.mpr
        (List.all_eq_true.mp (isPodChar_of_mem_versionNames _ hname))
    have := length_of_mem_versionNames _ hname
    rw [← htake, List.length_take] at this
    omega
  rw [podNameLength?, if_pos ⟨hstem, Nat.lt_of_lt_of_le (by decide) hlength⟩] at h
  contradiction

/-- The versions of a text are those of its pod names, in order. -/
theorem words_version (cs : List Char) :
    words versionLength? cs = (words podNameLength? cs).flatMap (words versionLength?) := by
  induction hn : cs.length using Nat.strongRecOn generalizing cs with
  | ind _ ih =>
    cases hpod : podNameLength? cs with
    | none =>
      rw [words_of_none hpod, words_of_none (versionLength?_of_podNameLength? hpod)]
      cases cs with
      | nil => rfl
      | cons c cs => exact ih cs.length (by simp [← hn]) cs rfl
    | some n =>
      obtain ⟨hstem, hle, htake⟩ := podNameLength?_eq_some hpod
      have hpos : 0 < n := Nat.lt_of_le_of_lt (Nat.zero_le _) hstem
      have hdrop : cs.drop n = cs.dropWhile isPodChar := by
        apply List.append_cancel_left
        rw [List.take_append_drop, htake, List.takeWhile_append_dropWhile]
      have hrest : ∀ c ∈ (cs.drop n).head?, isPodChar c = false := by
        rw [hdrop]
        intro c hc
        have := List.head?_dropWhile_not isPodChar cs
        rw [hc] at this
        exact this
      rw [words_of_some hpod hpos hle, List.flatMap_cons,
        ← ih (cs.drop n).length (by rw [List.length_drop]; omega) _ rfl,
        ← words_version_append _ hrest, List.take_append_drop]

section Patterns

def podChars : CharSet := ⟨[⟨0x2D, 0x2D⟩, ⟨0x30, 0x39⟩, ⟨0x61, 0x7A⟩]⟩

def versionDigits : CharSet := ⟨[⟨0x31, 0x33⟩]⟩

theorem parse_podName : Regex.parse Preset.podName.source.toList =
    .ok (.seq (.text stem) (.repetition (.set podChars) 1 none true)) := by cbv

theorem parse_version : Regex.parse Preset.version.source.toList =
    .ok (.seq (.text "reviews-v".toList) (.set versionDigits)) := by cbv

theorem contains_podChars : podChars.contains = isPodChar := by
  funext c
  have hdash : c = '-' ↔ c.toNat = 0x2D := Char.toNat_inj.symm
  have hdigit : c.isDigit = true ↔ 0x30 ≤ c.toNat ∧ c.toNat ≤ 0x39 := Char.isDigit_iff_toNat
  have hlower : c.isLower = true ↔ 0x61 ≤ c.toNat ∧ c.toNat ≤ 0x7A := by
    simp [Char.isLower, UInt32.le_iff_toNat_le]
  rw [Bool.eq_iff_iff]
  simp only [isPodChar, Bool.or_eq_true, decide_eq_true_eq, hdash, hdigit, hlower]
  simp only [podChars, CharSet.contains, CharSet.holds]
  split_ifs <;> simp <;> omega

theorem contains_versionDigits (c : Char) :
    versionDigits.contains c = true ↔ "reviews-v".toList ++ [c] ∈ versionNames := by
  have hdigit : "reviews-v".toList ++ [c] ∈ versionNames ↔ c = '1' ∨ c = '2' ∨ c = '3' := by
    simp [versionNames]
  rw [hdigit, ← Char.toNat_inj, ← Char.toNat_inj, ← Char.toNat_inj]
  show _ ↔ c.toNat = 0x31 ∨ c.toNat = 0x32 ∨ c.toNat = 0x33
  simp only [versionDigits, CharSet.contains, CharSet.holds]
  split_ifs <;> simp <;> omega

theorem ofSource_podName : Pattern.ofSource Preset.podName.source = .ok
    ⟨Preset.podName.source, false,
      (Expr.seq (.text stem) (.repetition (.set podChars) 1 none true)).program⟩ :=
  Pattern.ofSource_of_parse parse_podName (by decide)

theorem ofSource_version : Pattern.ofSource Preset.version.source = .ok
    ⟨Preset.version.source, false,
      (Expr.seq (.text "reviews-v".toList) (.set versionDigits)).program⟩ :=
  Pattern.ofSource_of_parse parse_version (by decide)

/-- The identifiers of the first preset are the pod names of a text. -/
theorem identifiers_podName {p : Pattern} (h : Pattern.ofSource Preset.podName.source = .ok p)
    (text : String) : p.identifiers text = (words podNameLength? text.toList).map String.ofList := by
  obtain rfl := Except.ok.inj (ofSource_podName.symm.trans h)
  have hrounds := (Expr.reaches_set podChars).rounds (takes_set podChars)
  rw [Pattern.identifiers_eq_words rfl rfl ((Expr.reaches_text stem).seq hrounds)
    (takes_text_seq (takes_rounds (takes_set podChars)) stem), preferred_podName contains_podChars]

/-- The identifiers of the second preset are the versions in a text. -/
theorem identifiers_version {v : Pattern} (h : Pattern.ofSource Preset.version.source = .ok v)
    (text : String) : v.identifiers text = (words versionLength? text.toList).map String.ofList := by
  obtain rfl := Except.ok.inj (ofSource_version.symm.trans h)
  have hdigit := (Expr.reaches_text "reviews-v".toList).seq (Expr.reaches_set versionDigits)
  rw [Pattern.identifiers_eq_words rfl rfl hdigit
    (takes_text_seq (takes_set versionDigits) "reviews-v".toList),
    preferred_version contains_versionDigits]

end Patterns

section Coarsening

variable {p v : Pattern}

/-- What is found in a text with the versions is what is found with them in its pod names. -/
theorem scan_version (hp : Pattern.ofSource Preset.podName.source = .ok p)
    (hv : Pattern.ofSource Preset.version.source = .ok v) (text : String) :
    (v.scan text).raw = (p.scan text).raw.flatMap v.identifiers := by
  show (Lines.ofText text).flatMap v.identifiers =
    ((Lines.ofText text).flatMap p.identifiers).flatMap v.identifiers
  rw [List.flatMap_assoc]
  congr 1
  funext line
  rw [identifiers_podName hp, identifiers_version hv, words_version, List.map_flatMap,
    List.flatMap_map]
  congr 1
  funext name
  rw [identifiers_version hv, String.toList_ofList]

theorem mem_identifierSet_version (hp : Pattern.ofSource Preset.podName.source = .ok p)
    (hv : Pattern.ofSource Preset.version.source = .ok v) {text x : String} :
    x ∈ v.identifierSet text ↔ ∃ name ∈ p.identifierSet text, x ∈ v.identifiers name := by
  rw [← Pattern.mem_unique_scan, Extraction.unique, Roster.mem_ofList, scan_version hp hv,
    List.mem_flatMap]
  simp only [← Pattern.mem_unique_scan, Extraction.unique, Roster.mem_ofList]

/-- The versions in a text are the versions in its pod names, and two files that agree on pod names
agree on versions. -/
theorem version_coarsens_podName : ∃ p v, Pattern.ofSource Preset.podName.source = .ok p ∧
    Pattern.ofSource Preset.version.source = .ok v ∧
    (∀ text, (v.scan text).unique =
      Roster.ofList ((p.scan text).unique.names.flatMap v.identifiers)) ∧
    ∀ (o : CheckOptions) (files : FileSystem) (now : Timestamp) (r : CheckResult),
      { o with pattern := p }.check files now = .ok r → r.report.success = true →
      ∃ r', { o with pattern := v }.check files now = .ok r' ∧ r'.report.success = true := by
  refine ⟨_, _, ofSource_podName, ofSource_version, ?_, ?_⟩
  · intro text
    apply Roster.ext_mem
    intro x
    rw [Pattern.mem_unique_scan, mem_identifierSet_version ofSource_podName ofSource_version,
      Roster.mem_ofList, List.mem_flatMap]
    simp only [← Pattern.mem_unique_scan]
    rfl
  · intro o files now r hcheck hsuccess
    obtain ⟨pods, log, hpods, hlog, rfl⟩ := CheckOptions.check_eq_ok_iff.mp hcheck
    refine ⟨_, CheckOptions.check_of_holds hpods hlog, ?_⟩
    rw [CheckOptions.success_result_iff] at hsuccess ⊢
    ext x
    rw [mem_identifierSet_version ofSource_podName ofSource_version,
      mem_identifierSet_version ofSource_podName ofSource_version]
    show (∃ name ∈ Pattern.identifierSet _ pods, _) ↔ _
    rw [hsuccess]

end Coarsening

end RollCall
