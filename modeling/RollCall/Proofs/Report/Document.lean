import RollCall.Report
import RollCall.Proofs.Json.Decoding
import RollCall.Proofs.Json.Writer
import RollCall.Proofs.Timestamp

/-! The document of a report reads as the report, field by field. -/
namespace RollCall.Report

open Json (Value Blanks Document)

variable {r r' : Report}

def namesValue (names : List String) : Value := .array (names.map .string)

def tallyValue (tally : Tally) : Value :=
  .object (tally.map fun entry => (entry.1, .number entry.2 0))

/-- What a reader makes of the document of a report. -/
def document (r : Report) : Value :=
  .object <|
    [("success", .bool r.success), ("pattern", .string r.pattern),
      ("pods_file", .string r.podsFile), ("log_file", .string r.logFile),
      ("expected", namesValue r.expected), ("observed", namesValue r.observed),
      ("missing", namesValue r.missing), ("unexpected", namesValue r.unexpected)] ++
    (r.occurrences.toList.map fun tally => ("occurrences", tallyValue tally)) ++
    [("checked_at", .string r.checkedAt.written)]

theorem value_toJson (r : Report) : r.toJson.value = r.document := by
  have hnames (names : List String) :
      Value.array (Json.values (names.map .string)) = namesValue names := by
    rw [Json.values_eq_map, List.map_map]
    rfl
  have htally (tally : Tally) :
      Value.object (Json.memberValues (tally.map fun entry => (entry.1, .nat entry.2))) =
        tallyValue tally := by
    rw [Json.memberValues_eq_map, List.map_map]
    rfl
  unfold toJson document
  cases r.occurrences with
  | none => simp [Json.value, Json.memberValues, hnames]
  | some tally => simp [Json.value, Json.memberValues, hnames, htally]

theorem namesValue_inj {names names' : List String} (h : namesValue names = namesValue names') :
    names = names' := by
  have hinj : Function.Injective Value.string := fun _ _ => Value.string.inj
  exact hinj.list_map (Value.array.inj h)

theorem tallyValue_inj {tally tally' : Tally} (h : tallyValue tally = tallyValue tally') :
    tally = tally' := by
  have hinj : Function.Injective fun entry : String × Nat =>
      (entry.1, Value.number (entry.2 : Int) 0) := by
    rintro ⟨name, n⟩ ⟨name', n'⟩ h
    simpa [Int.ofNat_inj] using h
  exact hinj.list_map (Value.object.inj h)

/-- A document tells every field, and how the time was written. -/
theorem document_inj (h : r'.document = r.document) :
    r'.checkedAt.written = r.checkedAt.written ∧ r' = { r with checkedAt := r'.checkedAt } := by
  have hmembers := Value.object.inj h
  simp only [List.cons_append, List.nil_append, List.cons.injEq, Prod.mk.injEq, Value.bool.injEq,
    true_and, Value.string.injEq, List.append_singleton_inj] at hmembers
  obtain ⟨hsuccess, hpattern, hpodsFile, hlogFile, hexpected, hobserved, hmissing, hunexpected,
    hoccurrences, hwritten⟩ := hmembers
  have hoccurrences : r'.occurrences = r.occurrences := by
    revert hoccurrences
    cases r'.occurrences with
    | none => cases r.occurrences <;> simp
    | some tally' =>
      cases r.occurrences with
      | none => simp
      | some tally => simpa using tallyValue_inj
  refine ⟨hwritten, ?_⟩
  show Report.mk r'.success r'.pattern r'.podsFile r'.logFile r'.expected r'.observed r'.missing
    r'.unexpected r'.occurrences r'.checkedAt = _
  rw [hsuccess, hpattern, hpodsFile, hlogFile, namesValue_inj hexpected, namesValue_inj hobserved,
    namesValue_inj hmissing, namesValue_inj hunexpected, hoccurrences]

theorem toList_render_json (r : Report) (color : Bool) :
    (r.render .json color).toList = r.toJson.write.toList ++ ['\n'] :=
  String.toList_append

theorem read_render_json (r : Report) (color : Bool) :
    Json.read (r.render .json color).toList = some r.document := by
  rw [toList_render_json, Json.read_eq_some_iff, ← value_toJson]
  exact Json.document_write r.toJson (.more rfl .done)

/-- Reports are written alike if they differ at most in times that are written alike. -/
theorem render_json_eq_iff {color color' : Bool} :
    r'.render .json color' = r.render .json color ↔
      r'.checkedAt.written = r.checkedAt.written ∧ r' = { r with checkedAt := r'.checkedAt } := by
  constructor
  · intro h
    have hread := r'.read_render_json color'
    rw [h, read_render_json] at hread
    exact document_inj (Option.some.inj hread).symm
  · rintro ⟨hwritten, hr⟩
    have hjson : r'.toJson = r.toJson := by
      rw [hr]
      simp only [toJson, hwritten]
    simp only [render, hjson]

/-- A report written as a document is one document and the end of a line, and it reads as the report
and nothing else. Two reports written alike differ at most in times that are written alike, so they
are the same report. -/
theorem render_json_decodes (r : Report) (color : Bool) :
    (∃ doc, (r.render .json color).toList = doc ++ ['\n'] ∧ doc.getLast? = some '}' ∧
        ∀ v, Document doc v ↔ v = r.document) ∧
      Json.read (r.render .json color).toList = some r.document ∧
      ∀ (r' : Report) (color' : Bool),
        (r'.render .json color' = r.render .json color ↔
          r'.checkedAt.written = r.checkedAt.written ∧
            r' = { r with checkedAt := r'.checkedAt }) ∧
        (r'.checkedAt.Proper → r.checkedAt.Proper →
          (r'.render .json color' = r.render .json color ↔ r' = r)) := by
  refine ⟨⟨r.toJson.write.toList, r.toList_render_json color, Json.getLast?_write_object _, ?_⟩,
    r.read_render_json color, fun r' color' => ⟨render_json_eq_iff, ?_⟩⟩
  · have hdoc : Document r.toJson.write.toList r.document := by
      have hdoc := Json.document_write r.toJson (.done : Blanks [] [])
      rwa [List.append_nil, value_toJson] at hdoc
    intro v
    constructor
    · intro hv
      exact hv.unique hdoc
    · rintro rfl
      exact hdoc
  · intro hproper' hproper
    rw [render_json_eq_iff]
    constructor
    · rintro ⟨hwritten, hr⟩
      rw [hr, Timestamp.written_inj hproper' hproper hwritten]
    · rintro rfl
      exact ⟨rfl, rfl⟩

/-- A report of an identifier of marks and of one beyond 16 bits. -/
def marked (checkedAt : Timestamp) : Report where
  success := false
  pattern := "\"(.+)\""
  podsFile := "a\\b"
  logFile := "\x7f\n\x01"
  expected := ["\u2028", "😀"]
  observed := ["😀"]
  missing := ["\u2028"]
  unexpected := []
  occurrences := some [("\u2028", 0), ("😀", 10)]
  checkedAt := checkedAt

/-- The report in a leap second and in the second after it. -/
theorem render_json_decodes_leap_second :
    let r := marked ⟨1483228799, 1000000000⟩
    let r' := marked ⟨1483228800, 0⟩
    Json.read (r.render .json true).toList = some r.document ∧
      r'.checkedAt.Proper ∧ r.checkedAt.Proper ∧
      (r'.render .json false = r.render .json true ↔ r' = r) ∧ r' ≠ r := by
  obtain ⟨-, hread, hsame⟩ := render_json_decodes (marked ⟨1483228799, 1000000000⟩) true
  have hleap : (⟨1483228799, 1000000000⟩ : Timestamp).Proper := ⟨by decide, by decide⟩
  have hafter : (⟨1483228800, 0⟩ : Timestamp).Proper := ⟨by decide, by decide⟩
  exact ⟨hread, hafter, hleap, (hsame _ false).2 hafter hleap, by decide⟩

end RollCall.Report
