import RollCall.Proofs.Settings.Entries

/-! Settings are loaded if each of them can be read from its tree, in whatever order they are looked
at. Otherwise one of those that cannot is complained of. -/
namespace RollCall.Settings

namespace Field

/-- Both have the same value for the setting. -/
def Same (k : Field) (t u : Settings) : Prop :=
  match k with
  | .preset => t.preset = u.preset
  | .pattern => t.pattern = u.pattern
  | .showCounts => t.showCounts = u.showCounts
  | .format => t.format = u.format
  | .color => t.color = u.color

/-- The tree gives the setting the value that it has. -/
def Reads (k : Field) (tree : Option Tree) (t : Settings) : Prop :=
  match k with
  | .preset => choiceField "PatternPreset"
      [(Preset.podName.name, .podName), (Preset.version.name, .version)] .podName tree = .ok t.preset
  | .pattern => textField k.key tree = .ok t.pattern
  | .showCounts => booleanField k.key false tree = .ok t.showCounts
  | .format => choiceField "OutputFormat"
      [(OutputFormat.text.name, .text), (OutputFormat.json.name, .json)] .text tree = .ok t.format
  | .color => booleanField k.key true tree = .ok t.color

/-- The setting cannot be read from the tree. -/
def Refuses (k : Field) (tree : Option Tree) (e : Invalid) : Prop :=
  ∀ t, k.read tree t = .error e

variable {k : Field} {tree : Option Tree} {t u w : Settings} {e : Invalid}

theorem key_injective {j k : Field} (h : j.key = k.key) : j = k := by
  cases j <;> cases k <;> first | rfl | exact absurd h (by decide)

theorem mem_all (k : Field) : k ∈ all := by cases k <;> decide

theorem Same.trans (h : k.Same t u) (h' : k.Same u w) : k.Same t w := by
  cases k <;> exact Eq.trans h h'

theorem Same.symm (h : k.Same t u) : k.Same u t := by
  cases k <;> exact Eq.symm h

theorem eq_of_same (h : ∀ k : Field, k.Same t u) : t = u := by
  have hpreset : t.preset = u.preset := h .preset
  have hpattern : t.pattern = u.pattern := h .pattern
  have hshowCounts : t.showCounts = u.showCounts := h .showCounts
  have hformat : t.format = u.format := h .format
  have hcolor : t.color = u.color := h .color
  cases t
  simp_all

/-- Values for each setting make up settings. -/
theorem exists_same (f : Field → Settings) : ∃ t, ∀ k : Field, k.Same t (f k) := by
  refine ⟨⟨(f .preset).preset, (f .pattern).pattern, (f .showCounts).showCounts,
    (f .format).format, (f .color).color⟩, fun k => ?_⟩
  cases k <;> rfl

theorem Reads.same (h : k.Reads tree t) (h' : k.Reads tree u) : k.Same t u := by
  cases k <;> exact Except.ok.inj (h.symm.trans h')

theorem Same.reads_iff (h : k.Same t u) : k.Reads tree t ↔ k.Reads tree u := by
  cases k <;> simp only [Same] at h <;> simp only [Reads, h]

/-- A setting for which nothing stands has its default. -/
theorem reads_none (k : Field) : k.Reads none {} := by cases k <;> rfl

theorem read_eq_ok_iff :
    k.read tree t = .ok u ↔ k.Reads tree u ∧ ∀ j, j ≠ k → j.Same t u := by
  have hset {α : Type} {x : Except Invalid α} {f : α → Settings}
      (hothers : ∀ a j, j ≠ k → j.Same t (f a)) (hreads : ∀ a, x = .ok a → k.Reads tree (f a))
      (hread : k.Reads tree u → ∃ a, x = .ok a ∧ k.Same (f a) u) :
      x.map f = .ok u ↔ k.Reads tree u ∧ ∀ j, j ≠ k → j.Same t u := by
    rw [map_ok]
    constructor
    · rintro ⟨a, ha, rfl⟩
      exact ⟨hreads a ha, hothers a⟩
    · rintro ⟨hu, hsame⟩
      obtain ⟨a, ha, hk⟩ := hread hu
      refine ⟨a, ha, eq_of_same fun j => ?_⟩
      by_cases hj : j = k
      · exact hj ▸ hk
      · exact (hothers a j hj).symm.trans (hsame j hj)
  cases k <;>
  · refine hset (fun a j hj => ?_) (fun a ha => ha) fun hu => ⟨_, hu, rfl⟩
    cases j <;> first | rfl | exact absurd rfl hj

/-- Whether a setting refuses its tree does not depend on the other settings. -/
theorem refuses_of_read (h : k.read tree t = .error e) : k.Refuses tree e := by
  have hmap {α : Type} {x : Except Invalid α} {f g : α → Settings} (hf : x.map f = .error e) :
      x.map g = .error e := by
    cases x with
    | error e' => exact hf
    | ok a => contradiction
  intro u
  cases k <;> exact hmap h

theorem Refuses.not_reads (h : k.Refuses tree e) (u : Settings) : ¬ k.Reads tree u := by
  intro hu
  obtain ⟨t, ht⟩ := exists_same fun j => if j = k then u else {}
  have hread : k.read tree t = .ok t := by
    refine read_eq_ok_iff.mpr ⟨((ht k).reads_iff.mpr ?_), fun j _ => ?_⟩
    · rwa [if_pos rfl]
    · cases j <;> rfl
  rw [h t] at hread
  contradiction

end Field

section Loading

variable {o : VisitOrder} {es : Entries} {t u : Settings} {ks : List Field} {e : Invalid}

/-- One setting after the other is read, and each value stays. -/
theorem foldlM_read_eq_ok_iff (h : ks.Nodup) :
    ks.foldlM (fun t k => k.read (es.get? k.key) t) t = .ok u ↔
      (∀ k ∈ ks, k.Reads (es.get? k.key) u) ∧ ∀ k, k ∉ ks → k.Same t u := by
  induction ks generalizing t with
  | nil =>
    constructor
    · intro hu
      obtain rfl : t = u := Except.ok.inj hu
      exact ⟨by simp, fun k _ => by cases k <;> rfl⟩
    · exact fun hu => congrArg Except.ok (Field.eq_of_same fun k => hu.2 k (by simp))
  | cons k ks ih =>
    obtain ⟨hk, hnodup⟩ := List.nodup_cons.mp h
    rw [List.foldlM_cons, show (_ >>= _ : Except Invalid Settings) = Except.bind _ _ from rfl, bind_ok,
      List.forall_mem_cons]
    constructor
    · rintro ⟨a, ha, hu⟩
      obtain ⟨hread, hothers⟩ := Field.read_eq_ok_iff.mp ha
      obtain ⟨hreads, hsame⟩ := (ih hnodup).mp hu
      refine ⟨⟨(hsame k hk).reads_iff.mp hread, hreads⟩, fun j hj => ?_⟩
      rw [List.mem_cons, not_or] at hj
      exact (hothers j hj.1).trans (hsame j hj.2)
    · rintro ⟨⟨hread, hreads⟩, hsame⟩
      obtain ⟨a, ha⟩ := Field.exists_same fun j => if j = k then u else t
      have hka : k.Same a u := by simpa using ha k
      have hothers (j : Field) (hj : j ≠ k) : j.Same a t := by simpa [hj] using ha j
      refine ⟨a, Field.read_eq_ok_iff.mpr ⟨hka.reads_iff.mpr hread, fun j hj =>
        (hothers j hj).symm⟩, (ih hnodup).mpr ⟨hreads, fun j hj => ?_⟩⟩
      by_cases hjk : j = k
      · exact hjk ▸ hka
      · exact (hothers j hjk).trans (hsame j (by simp [hjk, hj]))

theorem ofEntries_eq_ok_iff : ofEntries o es = .ok u ↔ ∀ k : Field, k.Reads (es.get? k.key) u := by
  have hperm := o.visit_perm Field.key Field.all
  rw [ofEntries, foldlM_read_eq_ok_iff (hperm.nodup_iff.mpr (by decide))]
  simp only [hperm.mem_iff, Field.mem_all, not_true_eq_false, false_imp_iff, implies_true, and_true,
    true_imp_iff]

/-- What is complained of is a setting that cannot be read. -/
theorem exists_refuses_of_ofEntries (h : ofEntries o es = .error e) :
    ∃ k : Field, k.Refuses (es.get? k.key) e := by
  have hfold (ks : List Field) (t : Settings)
      (hks : ks.foldlM (fun t k => k.read (es.get? k.key) t) t = .error e) :
      ∃ k : Field, k.Refuses (es.get? k.key) e := by
    induction ks generalizing t with
    | nil => contradiction
    | cons k ks ih =>
      rw [List.foldlM_cons] at hks
      cases hread : k.read (es.get? k.key) t with
      | ok a =>
        rw [hread] at hks
        exact ih a hks
      | error e' =>
        rw [hread] at hks
        obtain rfl : e' = e := Except.error.inj hks
        exact ⟨k, Field.refuses_of_read hread⟩
  exact hfold _ _ h

variable {m : Machine} {env : Environment}

/-- Settings are loaded if no tree breaks the run off and each setting can be read from its own. -/
theorem ofEnvironment_eq_ok_iff : ofEnvironment m env = .ok u ↔
    (∀ root, ∃ tree, treeOf m env root = .ok tree) ∧
      ∀ k : Field, ∃ tree, treeOf m env k.key = .ok tree ∧ k.Reads tree u := by
  rw [ofEnvironment]
  cases hes : Entries.ofEnvironment m env with
  | error c =>
    refine iff_of_false nofun fun h => ?_
    obtain ⟨es, hok⟩ := exists_entries_iff.mpr h.1
    rw [hes] at hok
    contradiction
  | ok es =>
    have htrees := treeOf_of_ofEnvironment hes
    have hload : ((Except.ok es).mapError Obstacle.crash >>= fun es =>
        (ofEntries m.settingOrder es).mapError Obstacle.invalid) = .ok u ↔
          ofEntries m.settingOrder es = .ok u := by
      show (ofEntries m.settingOrder es).mapError Obstacle.invalid = .ok u ↔ _
      cases ofEntries m.settingOrder es <;> simp [Except.mapError]
    rw [hload, ofEntries_eq_ok_iff]
    simp only [htrees, Except.ok.injEq, exists_eq', exists_eq_left', implies_true, true_and]

/-- A run breaks off while settings are loaded if it does so at one of their trees. -/
theorem exists_treeOf_of_crash {c : Crash} (h : ofEnvironment m env = .error (.crash c)) :
    ∃ root, treeOf m env root = .error c := by
  rw [ofEnvironment] at h
  cases hes : Entries.ofEnvironment m env with
  | error c' =>
    rw [hes] at h
    obtain rfl : c' = c := by simpa [Except.mapError, bind, Except.bind] using h
    exact exists_treeOf_error hes
  | ok es =>
    rw [hes] at h
    change (ofEntries m.settingOrder es).mapError Obstacle.invalid = _ at h
    cases hload : ofEntries m.settingOrder es <;> simp [hload, Except.mapError] at h

theorem exists_crash_of_treeOf {root : String} {c : Crash} (h : treeOf m env root = .error c) :
    ∃ c, ofEnvironment m env = .error (.crash c) := by
  rw [ofEnvironment]
  cases hes : Entries.ofEnvironment m env with
  | error c' => exact ⟨c', rfl⟩
  | ok es =>
    rw [treeOf_of_ofEnvironment hes] at h
    contradiction

/-- Settings are told by their trees and by the order in which they are looked at. -/
theorem ofEnvironment_congr {m' : Machine} {env' : Environment} (hm : m.settingOrder = m'.settingOrder)
    (htrees : ∀ root, ∃ tree, treeOf m env root = .ok tree)
    (htrees' : ∀ root, ∃ tree, treeOf m' env' root = .ok tree)
    (h : ∀ k : Field, treeOf m env k.key = treeOf m' env' k.key) :
    ofEnvironment m env = ofEnvironment m' env' := by
  obtain ⟨es, hes⟩ := exists_entries_iff.mpr htrees
  obtain ⟨es', hes'⟩ := exists_entries_iff.mpr htrees'
  have hget (k : Field) : es.get? k.key = es'.get? k.key := by
    have hk := h k
    rw [treeOf_of_ofEnvironment hes, treeOf_of_ofEnvironment hes'] at hk
    exact Except.ok.inj hk
  rw [ofEnvironment, ofEnvironment, hes, hes', hm]
  show (ofEntries _ es).mapError _ = (ofEntries _ es').mapError _
  rw [ofEntries, ofEntries]
  simp only [hget]

/-- A setting that is complained of cannot be read from its tree. -/
theorem exists_refuses_of_ofEnvironment (h : ofEnvironment m env = .error (.invalid e)) :
    ∃ (k : Field) (tree : Option Tree), treeOf m env k.key = .ok tree ∧ k.Refuses tree e := by
  rw [ofEnvironment] at h
  cases hes : Entries.ofEnvironment m env with
  | error c =>
    rw [hes] at h
    simp [Except.mapError, bind, Except.bind] at h
  | ok es =>
    rw [hes] at h
    change (ofEntries m.settingOrder es).mapError Obstacle.invalid = _ at h
    cases hload : ofEntries m.settingOrder es with
    | ok u =>
      rw [hload] at h
      contradiction
    | error e' =>
      rw [hload] at h
      obtain rfl : e' = e := by simpa [Except.mapError] using h
      obtain ⟨k, hk⟩ := exists_refuses_of_ofEntries hload
      exact ⟨k, _, treeOf_of_ofEnvironment hes k.key, hk⟩

end Loading

end RollCall.Settings
