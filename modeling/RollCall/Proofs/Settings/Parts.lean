import Mathlib.Data.List.Forall2
import Mathlib.Tactic.Choose
import RollCall.Failure
import RollCall.Proofs.Settings.Fields
import RollCall.Proofs.Text.LowerCase

/-! The settings do not depend on one another. Where no two variables have one root, each setting is
told by its own variable alone, and what belongs to no setting, the order of variables and the case
of their names do not matter, as long as there is room for every index. -/
namespace RollCall.Settings

variable {m m' : Machine} {env env' other : Environment} {root : String} {v : String × String}
  {t u : Settings} {k : Field} {room : Nat}

section Room

def stepsOf (v : String × String) : List Step :=
  ((Name.ofVariable? v.1).map (·.steps)).getD []

def Fits (room : Nat) (v : String × String) : Prop := ∀ step ∈ stepsOf v, step.Fits room

instance (room : Nat) : DecidablePred (Fits room) := fun v =>
  inferInstanceAs (Decidable (∀ step ∈ stepsOf v, step.Fits room))

theorem stepsOf_of_path {path : String} (h : pathOf? v.1 = some path) :
    stepsOf v = (Name.ofPath path).steps := by
  rw [stepsOf, Name.ofVariable?, h]
  rfl

theorem exists_of_mem_collect {w : String × String} (h : w ∈ collect env) :
    ∃ v ∈ env, pathOf? v.1 = some w.1 ∧ v.2 = w.2 := by
  induction env using List.reverseRecOn with
  | nil => contradiction
  | append_singleton env v ih =>
    rw [collect_concat, collectOne] at h
    have hold (hw : w ∈ collect env) : ∃ v' ∈ env ++ [v], pathOf? v'.1 = some w.1 ∧ v'.2 = w.2 := by
      obtain ⟨v', hv', hpath⟩ := ih hw
      exact ⟨v', List.mem_append_left _ hv', hpath⟩
    cases hpath : pathOf? v.1 with
    | none =>
      rw [hpath] at h
      exact hold h
    | some path =>
      rw [hpath] at h
      rcases List.mem_append.mp h with h | h
      · exact hold (List.mem_of_mem_filter h)
      · obtain rfl := List.mem_singleton.mp h
        exact ⟨v, by simp, hpath, rfl⟩

/-- With room for every index no tree breaks the run off, whatever the variables are. -/
theorem exists_treeOf_of_fits (h : ∀ v ∈ env, Fits m.room v) (root : String) :
    ∃ tree, treeOf m env root = .ok tree := by
  have hgrow (old : Option Tree) (vs : List (String × String))
      (hvs : ∀ w ∈ vs, ∀ step ∈ (Name.ofPath w.1).steps, step.Fits m.room) :
      ∃ tree, vs.foldlM (grow m.room) old = .ok tree := by
    induction vs generalizing old with
    | nil => exact ⟨old, rfl⟩
    | cons w vs ih =>
      rw [List.forall_mem_cons] at hvs
      obtain ⟨t, ht⟩ := Tree.exists_put_of_fits hvs.1 old (.ofText w.2)
      obtain ⟨tree, htree⟩ := ih (some t) hvs.2
      exact ⟨tree, bind_ok.mpr ⟨some t, by rw [grow, ht]; rfl, htree⟩⟩
  refine hgrow none _ fun w hw step hstep => ?_
  have hmem := (m.variableOrder.visit_perm Prod.fst _).mem_iff.mp hw
  obtain ⟨v, hv, hpath, -⟩ := exists_of_mem_collect (List.mem_of_mem_filter hmem)
  exact h v hv step (stepsOf_of_path hpath ▸ hstep)

end Room

section Distinct

def DistinctRoots (env : Environment) : Prop := (env.filterMap rootOf?).Nodup

theorem DistinctRoots.length_part_le (h : DistinctRoots env) (root : String) :
    (part env root).length ≤ 1 := by
  calc
    (part env root).length = env.countP (rootOf? · = some root) :=
      List.countP_eq_length_filter.symm
    _ = (env.filterMap rootOf?).count root := by
      rw [List.count, List.countP_filterMap]
      refine congrArg (List.countP · env) (funext fun v => ?_)
      cases rootOf? v with
      | none => rfl
      | some r => exact (decide_eq_decide.mpr Option.some_inj).trans (beq_eq_decide r root).symm
    _ ≤ 1 := List.nodup_iff_count_le_one.mp h root

theorem mem_part_iff : v ∈ part env root ↔ v ∈ env ∧ rootOf? v = some root := by
  rw [part, List.mem_filter, decide_eq_true_iff]

theorem exists_path_of_root (h : rootOf? v = some root) :
    ∃ path, pathOf? v.1 = some path ∧ (Name.ofPath path).root = root := by
  obtain ⟨name, hname, rfl⟩ := Option.map_eq_some_iff.mp h
  obtain ⟨path, hpath, rfl⟩ := Option.map_eq_some_iff.mp hname
  exact ⟨path, hpath, rfl⟩

/-- The tree of a root comes from nothing or from one variable. -/
theorem DistinctRoots.treeOf_cases (h : DistinctRoots env) (root : String) :
    part env root = [] ∧ (∀ m, treeOf m env root = .ok none) ∨
      ∃ v ∈ env, ∃ path, part env root = [v] ∧ pathOf? v.1 = some path ∧
        ∀ m, treeOf m env root = grow m.room none (path, v.2) := by
  have hle := h.length_part_le root
  match hpart : part env root with
  | [] => exact Or.inl ⟨rfl, fun m => treeOf_of_part_eq_nil hpart⟩
  | [v] =>
    obtain ⟨hv, hroot⟩ := mem_part_iff.mp (hpart ▸ List.mem_singleton_self v)
    obtain ⟨path, hpath, -⟩ := exists_path_of_root hroot
    exact Or.inr ⟨v, hv, path, rfl, hpath, fun m => treeOf_of_part_eq_singleton hpart hpath⟩
  | _ :: _ :: _ =>
    rw [hpart] at hle
    simp at hle

/-- The order of variables does not matter to a tree. -/
theorem DistinctRoots.treeOf_eq (h : DistinctRoots env) (hroom : m.room = m'.room) (root : String) :
    treeOf m env root = treeOf m' env root := by
  rcases h.treeOf_cases root with ⟨-, htree⟩ | ⟨v, -, path, -, -, htree⟩
  · rw [htree, htree]
  · rw [htree, htree, hroom]

/-- A tree breaks the run off at an index that there is no room for. -/
theorem DistinctRoots.exists_index_of_crash (h : DistinctRoots env) {c : Crash}
    (hcrash : treeOf m env root = .error c) :
    ∃ v ∈ env, ∃ i, .index i ∈ stepsOf v ∧ ¬ (Step.index i).Fits m.room ∧ c = crashAt i := by
  rcases h.treeOf_cases root with ⟨-, htree⟩ | ⟨v, hv, path, -, hpath, htree⟩
  · rw [htree] at hcrash
    contradiction
  · refine ⟨v, hv, ?_⟩
    rw [htree, grow] at hcrash
    rw [stepsOf_of_path hpath]
    by_cases hfits : ∀ step ∈ (Name.ofPath path).steps, step.Fits m.room
    · obtain ⟨t, ht⟩ := Tree.exists_put_of_fits hfits none (.ofText v.2)
      rw [ht] at hcrash
      contradiction
    · obtain ⟨i, hi, hbad, hput⟩ :=
        Tree.exists_put_none_of_not_fits (by simpa using hfits) (.ofText v.2)
      rw [hput] at hcrash
      exact ⟨i, hi, hbad, (Except.error.inj hcrash).symm⟩

theorem DistinctRoots.exists_crash_of_not_fits (h : DistinctRoots env) (hv : v ∈ env)
    (hbad : ¬ Fits m.room v) : ∃ c, ofEnvironment m env = .error (.crash c) := by
  obtain ⟨step, hstep, hstepBad⟩ : ∃ step ∈ stepsOf v, ¬ step.Fits m.room := by
    simpa [Fits] using hbad
  cases hroot : rootOf? v with
  | none =>
    rw [rootOf?, Option.map_eq_none_iff] at hroot
    simp [stepsOf, hroot] at hstep
  | some root =>
    rcases h.treeOf_cases root with ⟨hpart, -⟩ | ⟨w, -, path, hpart, hpath, htree⟩
    · exact absurd (mem_part_iff.mpr ⟨hv, hroot⟩) (by simp [hpart])
    · obtain rfl : v = w := List.mem_singleton.mp (hpart ▸ mem_part_iff.mpr ⟨hv, hroot⟩)
      rw [stepsOf_of_path hpath] at hstep
      obtain ⟨i, -, -, hput⟩ :=
        Tree.exists_put_none_of_not_fits ⟨step, hstep, hstepBad⟩ (.ofText v.2)
      exact exists_crash_of_treeOf (by rw [htree, grow, hput]; rfl)

end Distinct

section Parts

theorem part_part (env : Environment) (root root' : String) :
    part (part env root) root' = if root = root' then part env root else [] := by
  rw [part, part, List.filter_filter]
  split
  · next h => simp [h]
  · next h =>
    rw [List.filter_eq_nil_iff]
    intro v _
    simpa using fun hroot' hroot => h (Option.some.inj (hroot.symm.trans hroot'))

/-- The part of a setting gives the setting its tree, and no tree to any other one. -/
theorem treeOf_part (m : Machine) (env : Environment) (root : String) :
    treeOf m (part env root) root = treeOf m env root := by
  refine treeOf_congr ?_
  rw [part_part, if_pos rfl]

theorem treeOf_part_of_ne {root' : String} (h : root ≠ root') :
    treeOf m (part env root) root' = .ok none := by
  refine treeOf_of_part_eq_nil ?_
  rw [part_part, if_neg h]

theorem exists_ofEnvironment_part_iff :
    (∃ u, ofEnvironment m (part env k.key) = .ok u) ↔
      ∃ u tree, treeOf m env k.key = .ok tree ∧ k.Reads tree u := by
  simp only [ofEnvironment_eq_ok_iff]
  constructor
  · rintro ⟨u, -, hfields⟩
    obtain ⟨tree, htree, hread⟩ := hfields k
    exact ⟨u, tree, treeOf_part m env k.key ▸ htree, hread⟩
  · rintro ⟨u, tree, htree, hread⟩
    obtain ⟨t, ht⟩ := Field.exists_same fun j => if j = k then u else {}
    refine ⟨t, fun root => ?_, fun j => ?_⟩
    · by_cases hroot : k.key = root
      · exact ⟨tree, hroot ▸ (treeOf_part m env k.key).trans htree⟩
      · exact ⟨none, treeOf_part_of_ne hroot⟩
    · by_cases hj : j = k
      · subst hj
        have hsame : j.Same t u := by simpa using ht j
        exact ⟨tree, (treeOf_part m env j.key).trans htree, hsame.reads_iff.mpr hread⟩
      · have hsame : j.Same t {} := by simpa [hj] using ht j
        exact ⟨none, treeOf_part_of_ne fun hkey => hj (Field.key_injective hkey).symm,
          hsame.reads_iff.mpr j.reads_none⟩

theorem same_of_part (h : ofEnvironment m env = .ok t)
    (hu : ofEnvironment m (part env k.key) = .ok u) : k.Same t u := by
  obtain ⟨tree, htree, hread⟩ := (ofEnvironment_eq_ok_iff.mp h).2 k
  obtain ⟨tree', htree', hread'⟩ := (ofEnvironment_eq_ok_iff.mp hu).2 k
  rw [treeOf_part, htree] at htree'
  obtain rfl := Except.ok.inj htree'
  exact hread.same hread'

/-- Settings are loaded if each of them is, where nothing breaks the run off. -/
theorem exists_ofEnvironment_iff (htrees : ∀ root, ∃ tree, treeOf m env root = .ok tree) :
    (∃ t, ofEnvironment m env = .ok t) ↔
      ∀ k : Field, ∃ u, ofEnvironment m (part env k.key) = .ok u := by
  simp only [exists_ofEnvironment_part_iff]
  constructor
  · rintro ⟨t, ht⟩ k
    exact ⟨t, (ofEnvironment_eq_ok_iff.mp ht).2 k⟩
  · intro h
    choose f hf using h
    obtain ⟨t, ht⟩ := Field.exists_same f
    refine ⟨t, ofEnvironment_eq_ok_iff.mpr ⟨htrees, fun k => ?_⟩⟩
    obtain ⟨tree, htree, hread⟩ := hf k
    exact ⟨tree, htree, (ht k).reads_iff.mpr hread⟩

theorem not_crash (htrees : ∀ root, ∃ tree, treeOf m env root = .ok tree) (c : Crash) :
    ofEnvironment m env ≠ .error (.crash c) := by
  intro h
  obtain ⟨root, hroot⟩ := exists_treeOf_of_crash h
  obtain ⟨tree, htree⟩ := htrees root
  rw [hroot] at htree
  contradiction

end Parts

section Independence

/-- Names that differ at most in the case of letters: they have the same lower-case form. -/
def SameLetters (m n : String) : Prop := LowerCase.ofText m = LowerCase.ofText n

theorem collect_of_sameLetters
    (h : List.Forall₂ (fun v w => SameLetters v.1 w.1 ∧ v.2 = w.2) env' env) :
    collect env' = collect env := by
  rw [collect, collect]
  generalize ([] : List (String × String)) = table
  induction h generalizing table with
  | nil => rfl
  | @cons v w env' env hvw _ ih =>
    have hpath : pathOf? v.1 = pathOf? w.1 := by
      unfold pathOf?
      rw [hvw.1]
    rw [List.foldl_cons, List.foldl_cons, hpath, hvw.2]
    exact ih _

/-- Both load the same settings or none, and nothing breaks the second one off; in the same order of
settings they complain alike. -/
structure LoadsAs (m' : Machine) (env' : Environment) (m : Machine) (env : Environment) : Prop where
  loaded_iff : ∀ t, ofEnvironment m' env' = .ok t ↔ ofEnvironment m env = .ok t
  not_crash : ∀ c, ofEnvironment m' env' ≠ .error (.crash c)
  eq_of_order : m'.settingOrder = m.settingOrder → ofEnvironment m' env' = ofEnvironment m env

theorem LoadsAs.of_treeOf (htrees : ∀ root, ∃ tree, treeOf m env root = .ok tree)
    (htrees' : ∀ root, ∃ tree, treeOf m' env' root = .ok tree)
    (h : ∀ k : Field, treeOf m' env' k.key = treeOf m env k.key) : LoadsAs m' env' m env where
  loaded_iff t := by
    simp only [ofEnvironment_eq_ok_iff, h, htrees, htrees', implies_true, true_and]
  not_crash := Settings.not_crash htrees'
  eq_of_order hm := ofEnvironment_congr hm htrees' htrees h

/-- The settings do not depend on one another, nor on anything else in the environment. -/
structure ByParts (m : Machine) (env : Environment) : Prop where
  loaded_iff : (∃ t, ofEnvironment m env = .ok t) ↔
    ∀ k : Field, ∃ u, ofEnvironment m (part env k.key) = .ok u
  same : ∀ t, ofEnvironment m env = .ok t → ∀ (k : Field) u,
    ofEnvironment m (part env k.key) = .ok u → k.Same t u
  default : ∀ k : Field, part env k.key = [] → ofEnvironment m (part env k.key) = .ok {}
  invalid : (¬ ∀ k : Field, ∃ u, ofEnvironment m (part env k.key) = .ok u) →
    ∃ e, ofEnvironment m env = .error (.invalid e) ∧ (Failure.settings e.message).exitCode = 2
  rearranged : ∀ m' env' other, m'.room = m.room →
    (∀ v ∈ other, Fits m.room v ∧ ∀ k : Field, rootOf? v ≠ some k.key) →
    env'.Perm (env ++ other) → LoadsAs m' env' m env
  letters : ∀ m' env', m'.room = m.room →
    List.Forall₂ (fun v w => SameLetters v.1 w.1 ∧ v.2 = w.2) env' env → LoadsAs m' env' m env

theorem ofEnvironment_nil (m : Machine) : ofEnvironment m [] = .ok {} := by
  have htree (root : String) : treeOf m [] root = .ok none := treeOf_of_part_eq_nil rfl
  exact ofEnvironment_eq_ok_iff.mpr
    ⟨fun root => ⟨none, htree root⟩, fun k => ⟨none, htree k.key, k.reads_none⟩⟩

theorem DistinctRoots.part_eq_of_perm (h : DistinctRoots env)
    (hother : ∀ v ∈ other, rootOf? v ≠ some root) (hperm : env'.Perm (env ++ other)) :
    part env' root = part env root := by
  have hnone : part other root = [] :=
    List.filter_eq_nil_iff.mpr fun v hv => by simpa using hother v hv
  have hpart : (part env' root).Perm (part (env ++ other) root) := hperm.filter _
  rw [part_append, hnone, List.append_nil] at hpart
  rcases h.treeOf_cases root with ⟨hroot, -⟩ | ⟨v, -, path, hroot, -⟩ <;> rw [hroot] at hpart ⊢
  · exact hpart.eq_nil
  · exact List.perm_singleton.mp hpart

theorem DistinctRoots.byParts (h : DistinctRoots env) (hfits : ∀ v ∈ env, Fits m.room v) :
    ByParts m env where
  loaded_iff := exists_ofEnvironment_iff (exists_treeOf_of_fits hfits)
  same t ht k u hu := same_of_part ht hu
  default k hk := by rw [hk, ofEnvironment_nil]
  invalid hfails := by
    rw [← exists_ofEnvironment_iff (exists_treeOf_of_fits hfits)] at hfails
    cases henv : ofEnvironment m env with
    | ok t => exact absurd ⟨t, henv⟩ hfails
    | error e =>
      cases e with
      | invalid e => exact ⟨e, rfl, rfl⟩
      | crash c => exact absurd henv (not_crash (exists_treeOf_of_fits hfits) c)
  rearranged m' env' other hroom hother hperm := by
    refine .of_treeOf (exists_treeOf_of_fits hfits) (exists_treeOf_of_fits fun v hv => ?_) fun k => ?_
    · rw [hroom]
      rcases List.mem_append.mp (hperm.mem_iff.mp hv) with hv | hv
      · exact hfits v hv
      · exact (hother v hv).1
    · rw [treeOf_congr (h.part_eq_of_perm (fun v hv => (hother v hv).2 k) hperm)]
      exact h.treeOf_eq hroom k.key
  letters m' env' hroom hletters := by
    have htree (root : String) : treeOf m' env' root = treeOf m env root := by
      rw [← h.treeOf_eq hroom, treeOf, treeOf, collect_of_sameLetters hletters]
    refine .of_treeOf (exists_treeOf_of_fits hfits) (fun root => ?_) fun k => htree k.key
    rw [htree]
    exact exists_treeOf_of_fits hfits root

/-- Where no two variables have one root, the run breaks off exactly if an index has no room, and
else each setting is told by its own variables alone. -/
theorem ofEnvironment_by_parts (m : Machine) (env : Environment) (h : DistinctRoots env) :
    ((∃ c, ofEnvironment m env = .error (.crash c)) ↔ ∃ v ∈ env, ¬ Fits m.room v) ∧
    (∀ c, ofEnvironment m env = .error (.crash c) →
      ∃ v ∈ env, ∃ i, .index i ∈ stepsOf v ∧ ¬ (Step.index i).Fits m.room ∧ c = crashAt i) ∧
    ((∀ v ∈ env, Fits m.room v) → ByParts m env) := by
  refine ⟨⟨fun ⟨c, hc⟩ => ?_, fun ⟨v, hv, hbad⟩ => h.exists_crash_of_not_fits hv hbad⟩,
    fun c hc => ?_, h.byParts⟩
  · by_contra hfits
    exact not_crash (exists_treeOf_of_fits (by simpa using hfits)) c hc
  · obtain ⟨root, hroot⟩ := exists_treeOf_of_crash hc
    exact h.exists_index_of_crash hroot

/-- A preset among a list that is no setting and a variable of something else: another order, a
further variable and other letters make no difference. -/
theorem ofEnvironment_by_parts_preset :
    let env : Environment :=
      [("RECONCILE_LOG[0]", "x"), ("HOME", "/"), ("RECONCILE_PRESET", "Version")]
    let m : Machine := { variableOrder := { first := ["preset", "log[0]"] } }
    DistinctRoots env ∧ (∀ v ∈ env, Fits m.room v) ∧
      (∀ k : Field, ∃ u, ofEnvironment {} (part env k.key) = .ok u) ∧
      ofEnvironment m [("RECONCILE_PRESET", "Version"), ("RECONCILE_A.B", "1"), ("HOME", "/"),
        ("RECONCILE_LOG[0]", "x")] = .ok { preset := .version } ∧
      ofEnvironment m [("Reconcile_Log[0]", "x"), ("Home", "/"), ("reconcile_Preset", "Version")] =
        .ok { preset := .version } := by
  intro env m
  have hdistinct : DistinctRoots env := by
    rw [DistinctRoots]
    decide +kernel
  have hfits : ∀ v ∈ env, Fits m.room v := by decide +kernel
  have hload : ofEnvironment {} env = .ok { preset := .version } := by decide +kernel
  obtain ⟨-, -, hparts⟩ := ofEnvironment_by_parts {} env hdistinct
  have hparts := hparts hfits
  refine ⟨hdistinct, hfits, hparts.loaded_iff.mp ⟨_, hload⟩, ?_, ?_⟩
  · refine ((hparts.rearranged m _ [("RECONCILE_A.B", "1")] rfl ?_ (by decide +kernel)).loaded_iff
      _).mpr hload
    intro v hv
    rw [List.mem_singleton.mp hv]
    exact ⟨by decide +kernel, fun k => by cases k <;> decide +kernel⟩
  · refine ((hparts.letters m _ rfl ?_).loaded_iff _).mpr hload
    have hsame {m n : String} (h : m.toList.map Char.toLower = n.toList.map Char.toLower) :
        SameLetters m n := LowerCase.ofText_eq_of_map_toLower h
    exact .cons ⟨hsame (by decide), rfl⟩ (.cons ⟨hsame (by decide), rfl⟩
      (.cons ⟨hsame (by decide), rfl⟩ .nil))

/-- An index beyond all lists breaks the run off, whatever memory there is. -/
theorem crash_of_huge_index (h : DistinctRoots [v]) {i : Int} (hsteps : stepsOf v = [.index i])
    (hi : listLimit ≤ i) (m : Machine) : ofEnvironment m [v] = .error (.crash .panic) := by
  have hroom : (m.room : Int) ≤ listLimit := Int.ofNat_le.mpr m.room_le
  have hbad : ¬ Fits m.room v := by
    intro hfits
    have hindex : (Step.index i).Fits m.room := hfits _ (hsteps ▸ List.mem_singleton_self _)
    exact absurd (Int.lt_of_lt_of_le hindex.2 hroom) (Int.not_lt.mpr hi)
  obtain ⟨c, hc⟩ := h.exists_crash_of_not_fits List.mem_cons_self hbad
  obtain ⟨root, hroot⟩ := exists_treeOf_of_crash hc
  obtain ⟨w, hw, j, hj, -, rfl⟩ := h.exists_index_of_crash hroot
  rw [List.mem_singleton.mp hw, hsteps, List.mem_singleton, Step.index.injEq] at hj
  rw [hc, crashAt, if_neg]
  omega

/-- A variable of no setting breaks the run off. -/
theorem ofEnvironment_of_huge_index :
    let env : Environment := [("RECONCILE_LOG[9223372036854775807]", "x")]
    DistinctRoots env ∧ (∀ k : Field, part env k.key = []) ∧
      ofEnvironment {} env = .error (.crash .panic) := by
  intro env
  have hdistinct : DistinctRoots env := List.nodup_singleton _
  have hsteps : stepsOf ("RECONCILE_LOG[9223372036854775807]", "x") =
      [.index 9223372036854775807] := by decide +kernel
  exact ⟨hdistinct, fun k => by cases k <;> decide +kernel,
    crash_of_huge_index hdistinct hsteps (by decide) {}⟩

end Independence

end RollCall.Settings
