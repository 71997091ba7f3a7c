import Mathlib.Data.List.Induction
import RollCall.Proofs.Settings.Tree
import RollCall.Proofs.VisitOrder
import RollCall.Settings.Basic

/-! The tree of a setting. It is built up by the variables that belong to the setting, in the order
in which they are visited, and by no other ones. -/
namespace RollCall.Settings

def Name.ofVariable? (variableName : String) : Option Name := (pathOf? variableName).map .ofPath

/-- The variable of this name belongs to the setting. -/
def Names (variableName root : String) : Prop :=
  ∃ name, Name.ofVariable? variableName = some name ∧ name.root = root

/-- What a variable belongs to, a setting or not. -/
def rootOf? (v : String × String) : Option String := (Name.ofVariable? v.1).map (·.root)

/-- The variables of one root. -/
def part (env : Environment) (root : String) : Environment := env.filter (rootOf? · = some root)

def pathsOf (root : String) (table : List (String × String)) : List (String × String) :=
  table.filter fun v => (Name.ofPath v.1).root = root

/-- A tree after the value of one more path. -/
def grow (room : Nat) (old : Option Tree) (v : String × String) : Except Crash (Option Tree) :=
  (Tree.put room old (Name.ofPath v.1).steps (.ofText v.2)).map some

/-- The tree of one root. -/
def treeOf (m : Machine) (env : Environment) (root : String) : Except Crash (Option Tree) :=
  (m.variableOrder.visit Prod.fst (pathsOf root (collect env))).foldlM (grow m.room) none

variable {m : Machine} {env env' before after : Environment} {root : String} {room : Nat}
  {es es' : Entries} {v : String × String}

theorem names_iff : Names v.1 root ↔ rootOf? v = some root := Option.map_eq_some_iff.symm

theorem rootOf?_of_path {path : String} (h : pathOf? v.1 = some path) :
    rootOf? v = some (Name.ofPath path).root := by
  rw [rootOf?, Name.ofVariable?, h]
  rfl

section Adding

theorem add_eq (room : Nat) (es : Entries) (v : String × String) : es.add room v.1 v.2 =
    (Tree.put room (es.get? (Name.ofPath v.1).root) (Name.ofPath v.1).steps (.ofText v.2)).map
      (setEntry es (Name.ofPath v.1).root) := by
  rw [Entries.add]
  cases Tree.put room (es.get? (Name.ofPath v.1).root) (Name.ofPath v.1).steps (.ofText v.2) <;> rfl

theorem get?_setEntry {key : String} {t : Tree} :
    Entries.get? (setEntry es key t) root = if root = key then some t else es.get? root :=
  lookup_setEntry es key root t

/-- Adding paths one after the other makes each tree grow by the paths of its root. -/
theorem foldlM_grow_of_add {vs : List (String × String)}
    (h : vs.foldlM (fun es v => Entries.add room es v.1 v.2) es = .ok es') (root : String) :
    (pathsOf root vs).foldlM (grow room) (es.get? root) = .ok (es'.get? root) := by
  induction vs generalizing es with
  | nil => exact congrArg (fun es : Entries => Except.ok (es.get? root)) (Except.ok.inj h)
  | cons v vs ih =>
    rw [List.foldlM_cons, add_eq] at h
    obtain ⟨es₁, hadd, h⟩ := bind_ok.mp h
    obtain ⟨t, ht, rfl⟩ := map_ok.mp hadd
    have hrest := ih h
    rw [get?_setEntry] at hrest
    by_cases hroot : (Name.ofPath v.1).root = root
    · rw [pathsOf, List.filter_cons_of_pos (by simpa using hroot), List.foldlM_cons]
      rw [hroot] at ht
      rw [if_pos hroot.symm] at hrest
      exact bind_ok.mpr ⟨some t, by rw [grow, ht]; rfl, hrest⟩
    · rw [pathsOf, List.filter_cons_of_neg (by simpa using hroot)]
      rwa [if_neg (Ne.symm hroot)] at hrest

/-- Paths can be added if each tree can grow by the paths of its root. -/
theorem exists_add_of_grow {vs : List (String × String)}
    (h : ∀ root, ∃ t, (pathsOf root vs).foldlM (grow room) (es.get? root) = .ok t) :
    ∃ es', vs.foldlM (fun es v => Entries.add room es v.1 v.2) es = .ok es' := by
  induction vs generalizing es with
  | nil => exact ⟨es, rfl⟩
  | cons v vs ih =>
    obtain ⟨t, ht⟩ := h (Name.ofPath v.1).root
    rw [pathsOf, List.filter_cons_of_pos (by simp), List.foldlM_cons] at ht
    obtain ⟨_, hgrow, -⟩ := bind_ok.mp ht
    obtain ⟨t₁, ht₁, rfl⟩ := map_ok.mp hgrow
    have hadd : es.add room v.1 v.2 = .ok (setEntry es (Name.ofPath v.1).root t₁) := by
      rw [add_eq, ht₁]
      rfl
    rw [List.foldlM_cons, hadd]
    refine ih fun root => ?_
    obtain ⟨t, ht⟩ := h root
    rw [get?_setEntry]
    by_cases hroot : (Name.ofPath v.1).root = root
    · rw [pathsOf, List.filter_cons_of_pos (by simpa using hroot), List.foldlM_cons, ← hroot, grow,
        ht₁] at ht
      rw [if_pos hroot.symm, ← hroot]
      exact ⟨t, ht⟩
    · rw [pathsOf, List.filter_cons_of_neg (by simpa using hroot)] at ht
      rw [if_neg (Ne.symm hroot)]
      exact ⟨t, ht⟩

/-- What breaks a run off while paths are added is the growth of one tree. -/
theorem exists_grow_error_of_add {vs : List (String × String)} {c : Crash}
    (h : vs.foldlM (fun es v => Entries.add room es v.1 v.2) es = .error c) :
    ∃ root, (pathsOf root vs).foldlM (grow room) (es.get? root) = .error c := by
  induction vs generalizing es with
  | nil => contradiction
  | cons v vs ih =>
    rw [List.foldlM_cons, add_eq] at h
    cases hput : Tree.put room (es.get? (Name.ofPath v.1).root) (Name.ofPath v.1).steps
        (.ofText v.2) with
    | error c' =>
      rw [hput] at h
      refine ⟨(Name.ofPath v.1).root, ?_⟩
      rw [pathsOf, List.filter_cons_of_pos (by simp), List.foldlM_cons, grow, hput]
      exact congrArg Except.error (Except.error.inj h)
    | ok t =>
      rw [hput] at h
      obtain ⟨root, hroot⟩ := ih h
      refine ⟨root, ?_⟩
      rw [get?_setEntry] at hroot
      by_cases hv : (Name.ofPath v.1).root = root
      · rw [if_pos hv.symm] at hroot
        rw [pathsOf, List.filter_cons_of_pos (by simpa using hv), List.foldlM_cons, ← hv, grow, hput,
          hv]
        exact hroot
      · rw [if_neg (Ne.symm hv)] at hroot
        rwa [pathsOf, List.filter_cons_of_neg (by simpa using hv)]

theorem treeOf_of_ofEnvironment (h : Entries.ofEnvironment m env = .ok es) (root : String) :
    treeOf m env root = .ok (es.get? root) := by
  have hgrow := foldlM_grow_of_add h root
  rwa [pathsOf, ← VisitOrder.visit_filter] at hgrow

theorem exists_treeOf_error {c : Crash} (h : Entries.ofEnvironment m env = .error c) :
    ∃ root, treeOf m env root = .error c := by
  obtain ⟨root, hroot⟩ := exists_grow_error_of_add h
  rw [pathsOf, ← VisitOrder.visit_filter] at hroot
  exact ⟨root, hroot⟩

/-- The entries are built unless some tree breaks the run off. -/
theorem exists_entries_iff :
    (∃ es, Entries.ofEnvironment m env = .ok es) ↔ ∀ root, ∃ t, treeOf m env root = .ok t := by
  constructor
  · rintro ⟨es, h⟩ root
    exact ⟨_, treeOf_of_ofEnvironment h root⟩
  · intro h
    refine exists_add_of_grow fun root => ?_
    rw [pathsOf, ← VisitOrder.visit_filter]
    exact h root

end Adding

section Collecting

def collectOne (table : List (String × String)) (v : String × String) : List (String × String) :=
  match pathOf? v.1 with
  | some path => setEntry table path v.2
  | none => table

theorem collect_concat (env : Environment) (v : String × String) :
    collect (env ++ [v]) = collectOne (collect env) v := by
  rw [collect, List.foldl_append]
  rfl

theorem collectOne_of_path {path : String} (h : pathOf? v.1 = some path)
    (table : List (String × String)) : collectOne table v = setEntry table path v.2 := by
  rw [collectOne, h]

theorem pathsOf_setEntry (root : String) (table : List (String × String)) (path value : String) :
    pathsOf root (setEntry table path value) =
      if (Name.ofPath path).root = root then setEntry (pathsOf root table) path value
      else pathsOf root table := by
  rw [pathsOf, setEntry, List.filter_append, List.filter_filter]
  split
  · next h =>
    rw [List.filter_cons_of_pos (by simpa using h), setEntry, pathsOf, List.filter_filter]
    simp only [Bool.and_comm, List.filter_nil]
  · next h =>
    rw [List.filter_cons_of_neg (by simpa using h), List.filter_nil, List.append_nil, pathsOf]
    refine List.filter_congr fun v _ => ?_
    by_cases hv : v.1 = path
    · simp [hv, h]
    · simp [hv]

/-- The paths of a root come from the variables of this root. -/
theorem pathsOf_collect (env : Environment) (root : String) :
    pathsOf root (collect env) = collect (part env root) := by
  induction env using List.reverseRecOn with
  | nil => rfl
  | append_singleton env v ih =>
    rw [collect_concat, part, List.filter_append]
    cases hpath : pathOf? v.1 with
    | none =>
      have hroot : rootOf? v = none := by rw [rootOf?, Name.ofVariable?, hpath]; rfl
      rw [List.filter_cons_of_neg (by simp [hroot]), List.filter_nil, List.append_nil, collectOne,
        hpath]
      exact ih
    | some path =>
      rw [collectOne_of_path hpath, pathsOf_setEntry, ih]
      split
      · next h =>
        rw [List.filter_cons_of_pos (by simpa [rootOf?_of_path hpath] using h), List.filter_nil,
          collect_concat, collectOne_of_path hpath]
        rfl
      · next h =>
        rw [List.filter_cons_of_neg (by simpa [rootOf?_of_path hpath] using h), List.filter_nil,
          List.append_nil]
        rfl

theorem treeOf_eq (m : Machine) (env : Environment) (root : String) : treeOf m env root =
    (m.variableOrder.visit Prod.fst (collect (part env root))).foldlM (grow m.room) none := by
  rw [treeOf, pathsOf_collect]

/-- Only the variables of a root count for its tree. -/
theorem treeOf_congr (h : part env root = part env' root) :
    treeOf m env root = treeOf m env' root := by
  rw [treeOf_eq, treeOf_eq, h]

theorem part_filter {keep : String × String → Bool}
    (h : ∀ v, keep v = false → ¬ Names v.1 root) (env : Environment) :
    part (env.filter keep) root = part env root := by
  rw [part, part, List.filter_filter]
  refine List.filter_congr fun v _ => ?_
  cases hkeep : keep v with
  | true => rw [Bool.and_true]
  | false => simpa [names_iff] using h v hkeep

theorem part_append (env env' : Environment) (root : String) :
    part (env ++ env') root = part env root ++ part env' root := List.filter_append ..

theorem part_eq_nil (h : ∀ v ∈ env, ¬ Names v.1 root) : part env root = [] :=
  List.filter_eq_nil_iff.mpr fun v hv => by simpa [names_iff] using h v hv

theorem treeOf_of_part_eq_nil (h : part env root = []) : treeOf m env root = .ok none := by
  rw [treeOf_eq, h, show collect [] = [] from rfl, (m.variableOrder.visit_perm _ []).eq_nil]
  rfl

/-- The tree of a root with one variable does not depend on the order of variables. -/
theorem treeOf_of_part_eq_singleton {path : String} (h : part env root = [v])
    (hpath : pathOf? v.1 = some path) :
    treeOf m env root = grow m.room none (path, v.2) := by
  have hcollect : collect [v] = [(path, v.2)] := collectOne_of_path hpath []
  have hvisit := List.perm_singleton.mp (m.variableOrder.visit_perm Prod.fst [(path, v.2)])
  rw [treeOf_eq, h, hcollect, hvisit, List.foldlM_cons]
  cases grow m.room none (path, v.2) <;> rfl

end Collecting

end RollCall.Settings
