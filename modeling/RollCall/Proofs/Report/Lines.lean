import RollCall.Proofs.Reading
import RollCall.Proofs.Report

/-! The lines of a report without colour. No identifier holds a line feed, so the report reads as the
lines that it was written as, and the lines tell what they were written from. -/
namespace RollCall

namespace Report

variable {r r' : Report}

def listText (label : String) (names : List String) : List Char :=
  label.toList ++ [':', ' '] ++ Quoted.quoteList names

def countText (name : String) (n : Nat) : List Char :=
  [' ', ' '] ++ name.toList ++ [':', ' '] ++ Nat.toDigits 10 n

def verdictTexts (r : Report) : List (List Char) :=
  if r.success then ["SUCCESS!".toList]
  else
    ["FAILURE!".toList, listText "Running pods" r.expected,
      listText "Pods that logged requests" r.observed] ++
    ((if r.missing.isEmpty then [] else [listText "Missing" r.missing]) ++
      (if r.unexpected.isEmpty then [] else [listText "Unexpected" r.unexpected]))

/-- The lines of the counts, each without its end: one for each identifier that was counted. -/
def countTexts (r : Report) : List (List Char) :=
  match r.occurrences with
  | none => []
  | some tally => "Requests per pod:".toList :: tally.map fun entry => countText entry.1 entry.2

section Reading

theorem plain_of_noControls {cs : List Char} (h : NoControls cs) : Lines.Plain '\n' '\r' cs where
  lf_notMem hm := absurd (h _ hm) (by decide)
  getLast?_ne hl := absurd (h _ (List.mem_of_getLast? hl)) (by decide)

theorem plain_listText {label : String} (h : NoControls label.toList) (names : List String) :
    Lines.Plain '\n' '\r' (listText label names) :=
  plain_of_noControls (noControls_append.mpr
    ⟨noControls_append.mpr ⟨h, by decide⟩, Quoted.noControls_quoteList names⟩)

theorem plain_verdictTexts (r : Report) : ∀ line ∈ r.verdictTexts, Lines.Plain '\n' '\r' line := by
  have optional (label : String) (h : NoControls label.toList) (names : List String) :
      ∀ line ∈ if names.isEmpty then [] else [listText label names],
        Lines.Plain '\n' '\r' line := by
    split
    · exact nofun
    · exact List.forall_mem_singleton.mpr (plain_listText h names)
  unfold verdictTexts
  split
  · exact List.forall_mem_singleton.mpr (plain_of_noControls (by decide))
  · simp only [List.forall_mem_append, List.forall_mem_cons]
    exact ⟨⟨plain_of_noControls (by decide), plain_listText (by decide) r.expected,
      plain_listText (by decide) r.observed, nofun⟩, optional "Missing" (by decide) r.missing,
      optional "Unexpected" (by decide) r.unexpected⟩

theorem plain_countText {name : String} (h : '\n' ∉ name.toList) (n : Nat) :
    Lines.Plain '\n' '\r' (countText name n) where
  lf_notMem := by
    have hdigits := noControls_toDigits (by decide) (by decide : 10 ≤ 16) n
    have hlf : '\n' ∉ Nat.toDigits 10 n := fun hm => absurd (hdigits _ hm) (by decide)
    simp [countText, h, hlf]
  getLast?_ne hl := by
    -- The last character is a digit, whatever the identifier ends with.
    have hdigits := noControls_toDigits (by decide) (by decide : 10 ≤ 16) n
    rw [countText, List.getLast?_append_of_ne_nil _ Nat.toDigits_ne_nil] at hl
    exact absurd (hdigits _ (List.mem_of_getLast? hl)) (by decide)

theorem toList_writeText (r : Report) :
    (r.writeText false).toList = (r.verdictTexts ++ r.countTexts).flatMap (· ++ ['\n']) := by
  have optional (label : String) (names : List String) : optionalLine label names =
      (if names.isEmpty then [] else [listText label names]).flatMap (· ++ ['\n']) := by
    unfold optionalLine
    split
    · rfl
    · rw [List.flatMap_singleton]
      rfl
  have hverdict : r.verdictLines false = r.verdictTexts.flatMap (· ++ ['\n']) := by
    unfold verdictLines verdictTexts
    split
    · rw [List.flatMap_singleton]
      rfl
    · rw [List.flatMap_append, List.flatMap_append, ← optional, ← optional]
      simp [paint, listLine, listText]
  have hcounts : r.countLines false = r.countTexts.flatMap (· ++ ['\n']) := by
    unfold countLines countTexts
    cases r.occurrences with
    | none => rfl
    | some tally =>
      have hline (name : String) (n : Nat) :
          countLine false name n = countText name n ++ ['\n'] := by
        unfold countLine paint
        simp [countText]
      simp only [hline, List.flatMap_cons, List.flatMap_map]
      rfl
  rw [writeText, String.toList_ofList, List.flatMap_append, hverdict, hcounts]

/-- A report whose identifiers hold no line feeds reads as its lines. -/
theorem ofText_render (h : ∀ tally, r.occurrences = some tally →
      ∀ name ∈ tally.map Prod.fst, '\n' ∉ name.toList) :
    Lines.ofText (r.render .text false) = (r.verdictTexts ++ r.countTexts).map String.ofList := by
  have hcounts : ∀ line ∈ r.countTexts, Lines.Plain '\n' '\r' line := by
    unfold countTexts
    cases htally : r.occurrences with
    | none => exact nofun
    | some tally =>
      refine List.forall_mem_cons.mpr ⟨plain_of_noControls (by decide), fun line hline => ?_⟩
      obtain ⟨entry, hentry, rfl⟩ := List.mem_map.mp hline
      exact plain_countText (h tally htally _ (List.mem_map_of_mem hentry)) entry.2
  have hplain := List.forall_mem_append.mpr ⟨r.plain_verdictTexts, hcounts⟩
  have hwritten : Lines.Written '\n' '\r' (r.verdictTexts ++ r.countTexts)
      (r.render .text false).toList := by
    rw [render, toList_writeText]
    exact Lines.written_flatMap _
  rw [Lines.ofText, hwritten.split_eq (by decide) hplain]

end Reading

section Telling

theorem listText_inj {label : String} {names names' : List String}
    (h : listText label names = listText label names') : names = names' :=
  Quoted.quoteList_injective (List.append_cancel_left h)

/-- The last colon and blank end the identifier, whatever it holds. -/
theorem countText_inj {name name' : String} {n n' : Nat} (h : countText name n = countText name' n') :
    name = name' ∧ n = n' := by
  have hblank (n : Nat) : ' ' ∉ Nat.toDigits 10 n := fun hm =>
    absurd (Nat.isDigit_of_mem_toDigits (by decide) (by decide) hm) (by decide)
  have hsplit : name.toList ++ [':'] ++ ' ' :: Nat.toDigits 10 n =
      name'.toList ++ [':'] ++ ' ' :: Nat.toDigits 10 n' := by
    simpa [countText] using h
  obtain ⟨hname, hdigits⟩ := append_cons_inj_of_last (hblank n) (hblank n') hsplit
  exact ⟨String.toList_inj.mp (List.append_cancel_right hname),
    toDigits_inj (by decide) (by decide) hdigits⟩

theorem occurrences_eq_of_countTexts (h : r.countTexts = r'.countTexts) :
    r.occurrences = r'.occurrences := by
  unfold countTexts at h
  cases hr : r.occurrences with
  | none =>
    cases hr' : r'.occurrences with
    | none => rfl
    | some tally' => rw [hr, hr'] at h; contradiction
  | some tally =>
    cases hr' : r'.occurrences with
    | none => rw [hr, hr'] at h; contradiction
    | some tally' =>
      rw [hr, hr'] at h
      have hinj : Function.Injective fun entry : String × Nat => countText entry.1 entry.2 :=
        fun _ _ heq => Prod.ext (countText_inj heq).1 (countText_inj heq).2
      rw [List.map_injective_iff.mpr hinj (List.cons.inj h).2]

theorem head?_verdictTexts (r : Report) : r.verdictTexts.head? =
    some (if r.success then "SUCCESS!".toList else "FAILURE!".toList) := by
  unfold verdictTexts
  split <;> rfl

/-- The first line tells the verdict. -/
theorem success_eq_of_texts
    (h : r.verdictTexts ++ r.countTexts = r'.verdictTexts ++ r'.countTexts) :
    r.success = r'.success := by
  have hhead := congrArg List.head? h
  rw [List.head?_append, List.head?_append, head?_verdictTexts, head?_verdictTexts] at hhead
  have hword : ∀ b b' : Bool, (if b then "SUCCESS!".toList else "FAILURE!".toList) =
      (if b' then "SUCCESS!".toList else "FAILURE!".toList) → b = b' := by decide
  exact hword _ _ (Option.some.inj hhead)

/-- After a failure the next two lines tell the two sets. -/
theorem lists_eq_of_texts (hr : r.success = false) (hr' : r'.success = false)
    (h : r.verdictTexts ++ r.countTexts = r'.verdictTexts ++ r'.countTexts) :
    r.expected = r'.expected ∧ r.observed = r'.observed := by
  simp only [verdictTexts, hr, hr', Bool.false_eq_true, if_false, List.cons_append] at h
  obtain ⟨-, h⟩ := List.cons.inj h
  obtain ⟨hexpected, h⟩ := List.cons.inj h
  obtain ⟨hobserved, -⟩ := List.cons.inj h
  exact ⟨listText_inj hexpected, listText_inj hobserved⟩

theorem verdictTexts_of_success (h : r.success = true) : r.verdictTexts = ["SUCCESS!".toList] := by
  rw [verdictTexts, if_pos h]

end Telling

end Report

namespace CheckOptions

variable {o : CheckOptions} {files : FileSystem} {now : Timestamp} {r : CheckResult}

/-- What is missing and unexpected is told by the two sets, and counts are kept for the expected
identifiers, none of which holds a line feed. -/
theorem lists_of_check (h : o.check files now = .ok r) :
    r.report.missing =
      ((Roster.ofList r.report.expected).difference (.ofList r.report.observed)).names ∧
    r.report.unexpected =
      ((Roster.ofList r.report.observed).difference (.ofList r.report.expected)).names ∧
    (∀ tally, r.report.occurrences = some tally → tally.map Prod.fst = r.report.expected) ∧
    ∀ name ∈ r.report.expected, '\n' ∉ name.toList := by
  obtain ⟨pods, log, -, -, rfl⟩ := check_eq_ok_iff.mp h
  have hpods : Roster.ofList (o.pattern.scan pods).unique.names = (o.pattern.scan pods).unique :=
    Roster.ofList_names _
  have hlog : Roster.ofList (o.pattern.scan log).unique.names = (o.pattern.scan log).unique :=
    Roster.ofList_names _
  refine ⟨?_, ?_, fun tally htally => ?_, fun name hname => ?_⟩
  · show _ = ((Roster.ofList (o.pattern.scan pods).unique.names).difference
      (.ofList (o.pattern.scan log).unique.names)).names
    rw [hpods, hlog]
    rfl
  · show _ = ((Roster.ofList (o.pattern.scan log).unique.names).difference
      (.ofList (o.pattern.scan pods).unique.names)).names
    rw [hpods, hlog]
    rfl
  · change (if o.showCounts then some (Tally.count _ _) else none) = some tally at htally
    split at htally
    · rw [← Option.some.inj htally]
      exact Tally.map_fst_count _ _
    · contradiction
  · exact Pattern.lf_notMem_of_mem_scan (Roster.mem_ofList.mp hname)

theorem ofText_render_of_check (h : o.check files now = .ok r) :
    Lines.ofText (r.report.render .text false) =
      (r.report.verdictTexts ++ r.report.countTexts).map String.ofList := by
  obtain ⟨-, -, htally, hnames⟩ := lists_of_check h
  refine Report.ofText_render fun tally hoccurrences name hname => ?_
  rw [htally tally hoccurrences] at hname
  exact hnames name hname

variable {o' : CheckOptions} {files' : FileSystem} {now' : Timestamp} {r' : CheckResult}

/-- A report without colour reads as one line for the verdict, a line for each list that is shown,
and, where counts were taken, a line that says so and one line for each expected identifier, whatever
the identifiers hold. So two reports that look the same have the same verdict and the same counts,
and if they tell of a failure, they list the same identifiers. -/
theorem text_unambiguous (h : o.check files now = .ok r) (h' : o'.check files' now' = .ok r') :
    Lines.ofText (r.report.render .text false) =
      (r.report.verdictTexts ++ r.report.countTexts).map String.ofList ∧
    (∀ tally, r.report.occurrences = some tally → tally.map Prod.fst = r.report.expected) ∧
    (r.report.render .text false = r'.report.render .text false →
      r.report.success = r'.report.success ∧ r.report.occurrences = r'.report.occurrences ∧
      (r.report.success = false →
        r.report.expected = r'.report.expected ∧ r.report.observed = r'.report.observed ∧
        r.report.missing = r'.report.missing ∧ r.report.unexpected = r'.report.unexpected)) := by
  obtain ⟨hmissing, hunexpected, htally, -⟩ := lists_of_check h
  obtain ⟨hmissing', hunexpected', -, -⟩ := lists_of_check h'
  refine ⟨ofText_render_of_check h, htally, fun heq => ?_⟩
  have hmap : (r.report.verdictTexts ++ r.report.countTexts).map String.ofList =
      (r'.report.verdictTexts ++ r'.report.countTexts).map String.ofList := by
    rw [← ofText_render_of_check h, ← ofText_render_of_check h', heq]
  have htexts := List.map_injective_iff.mpr (fun _ _ h => String.ofList_injective h) hmap
  have hsuccess := Report.success_eq_of_texts htexts
  have hlists (hfail : r.report.success = false) :
      r.report.expected = r'.report.expected ∧ r.report.observed = r'.report.observed ∧
      r.report.missing = r'.report.missing ∧ r.report.unexpected = r'.report.unexpected := by
    obtain ⟨he, ho⟩ := Report.lists_eq_of_texts hfail (hsuccess ▸ hfail) htexts
    rw [hmissing, hmissing', hunexpected, hunexpected', he, ho]
    exact ⟨rfl, rfl, rfl, rfl⟩
  refine ⟨hsuccess, Report.occurrences_eq_of_countTexts ?_, hlists⟩
  -- The lines of the verdict are the same, so those that are left are the same too.
  have hverdict : r.report.verdictTexts = r'.report.verdictTexts := by
    cases hr : r.report.success with
    | true => rw [Report.verdictTexts_of_success hr,
        Report.verdictTexts_of_success (hsuccess ▸ hr)]
    | false =>
      obtain ⟨he, ho, hm, hu⟩ := hlists hr
      unfold Report.verdictTexts
      rw [hsuccess, he, ho, hm, hu]
  rw [hverdict] at htexts
  exact List.append_cancel_left htexts

/-- Two checks of the same texts under other names, whose reports tell alike that a letter is
missing. -/
theorem text_unambiguous_other_names : ∃ p, Pattern.ofSource "[ab]" = .ok p ∧
    let files : FileSystem := fun path => .ok (if path.size = 8 then "ab".toUTF8 else "a".toUTF8)
    ∃ r r', CheckOptions.check ⟨"pods.txt".toUTF8, "log.txt".toUTF8, p, true⟩ files ⟨0, 0⟩ = .ok r ∧
      CheckOptions.check ⟨"pods.lst".toUTF8, "log".toUTF8, p, true⟩ files ⟨1, 0⟩ = .ok r' ∧
      Lines.ofText (r.report.render .text false) =
        (r.report.verdictTexts ++ r.report.countTexts).map String.ofList ∧
      (∀ tally, r.report.occurrences = some tally → tally.map Prod.fst = r.report.expected) ∧
      r.report.render .text false = r'.report.render .text false ∧
      r.report.success = r'.report.success ∧ r.report.occurrences = r'.report.occurrences ∧
      r.report.success = false ∧
      r.report.expected = r'.report.expected ∧ r.report.observed = r'.report.observed ∧
      r.report.missing = r'.report.missing ∧ r.report.unexpected = r'.report.unexpected := by
  obtain ⟨p, hp⟩ := Pattern.exists_ofSource_letters
  let files : FileSystem := fun path => .ok (if path.size = 8 then "ab".toUTF8 else "a".toUTF8)
  let o : CheckOptions := ⟨"pods.txt".toUTF8, "log.txt".toUTF8, p, true⟩
  have h : o.check files ⟨0, 0⟩ = .ok (o.result ⟨0, 0⟩ "ab" "a") := check_of_holds rfl rfl
  have h' : CheckOptions.check ⟨"pods.lst".toUTF8, "log".toUTF8, p, true⟩ files ⟨1, 0⟩ = .ok _ :=
    check_of_holds rfl rfl
  have hfail : ¬ (o.result ⟨0, 0⟩ "ab" "a").report.success = true := by
    rw [success_result_iff]
    intro hset
    have hpods : "b" ∈ p.identifierSet "ab" :=
      ⟨"ab", List.mem_singleton_self _, by rw [Pattern.identifiers_letters hp]; decide⟩
    obtain ⟨line, hline, hb⟩ : "b" ∈ p.identifierSet "a" := hset ▸ hpods
    obtain rfl : line = "a" := List.mem_singleton.mp hline
    rw [Pattern.identifiers_letters hp] at hb
    exact absurd hb (by decide)
  rw [Bool.not_eq_true] at hfail
  obtain ⟨hlines, htally, hsame⟩ := text_unambiguous h h'
  obtain ⟨hsuccess, hoccurrences, hlists⟩ := hsame rfl
  exact ⟨p, hp, _, _, h, h', hlines, htally, rfl, hsuccess, hoccurrences, hfail, hlists hfail⟩

end CheckOptions

end RollCall
