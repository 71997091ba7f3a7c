import RollCall.Proofs.Settings.Fields

/-! One more variable that holds a whole setting. If no later one belongs to the setting, it sets the
setting to its value, whatever was set before, and changes no other one. -/
namespace RollCall.Settings

section Paths

variable {path : String} {room : Nat} {old tree : Option Tree} {v : String × String}

theorem eq_nil_of_readSteps {n : Nat} {cs : List Char} (h : readSteps? n cs = some []) :
    cs = [] := by
  unfold readSteps? at h
  split at h
  · rfl
  · dsimp only at h
    split at h
    · contradiction
    · simp at h
  · obtain ⟨⟨i, rest⟩, -, h⟩ := Option.bind_eq_some_iff.mp h
    simp at h
  · contradiction

/-- A path without steps is its root. -/
theorem root_of_steps_eq_nil (h : (Name.ofPath path).steps = []) :
    (Name.ofPath path).root = path := by
  unfold Name.ofPath at h ⊢
  cases hread : readSteps? path.toList.length (path.toList.dropWhile isKeyChar) with
  | none => simp only [hread]
  | some steps =>
    simp only [hread] at h ⊢
    by_cases hroot : (path.toList.takeWhile isKeyChar).isEmpty = true
    · rw [if_pos hroot]
    · rw [if_neg hroot] at h ⊢
      obtain rfl : steps = [] := h
      have hall := List.takeWhile_append_dropWhile (p := isKeyChar) (l := path.toList)
      rw [eq_nil_of_readSteps hread, List.append_nil] at hall
      show String.ofList (path.toList.takeWhile isKeyChar) = path
      rw [hall, String.ofList_toList]

/-- Steps leave a table or a list behind. -/
theorem steps_eq_nil_of_grow {x : Scalar} (h : grow room old v = .ok (some (.value x))) :
    (Name.ofPath v.1).steps = [] := by
  obtain ⟨t, ht, heq⟩ := map_ok.mp h
  obtain rfl := Option.some.inj heq
  cases hsteps : (Name.ofPath v.1).steps with
  | nil => rfl
  | cons step steps =>
    rw [hsteps] at ht
    cases step with
    | key k =>
      obtain ⟨part, -, hpart⟩ := bind_ok.mp ht
      exact nomatch Except.ok.inj hpart
    | index i =>
      obtain ⟨n, -, hn⟩ := bind_ok.mp ht
      obtain ⟨part, -, hpart⟩ := bind_ok.mp hn
      exact nomatch Except.ok.inj hpart

end Paths

section Last

variable {m : Machine} {env before after : Environment} {root : String} {v : String × String}

theorem nodup_collect (env : Environment) : ((collect env).map Prod.fst).Nodup := by
  induction env using List.reverseRecOn with
  | nil => exact List.nodup_nil
  | append_singleton env v ih =>
    rw [collect_concat, collectOne]
    cases pathOf? v.1 with
    | none => exact ih
    | some path =>
      dsimp only [setEntry]
      rw [List.map_append, List.map_singleton, List.nodup_append]
      exact ⟨(List.filter_sublist.map Prod.fst).nodup ih, List.nodup_singleton path, by simp⟩

theorem grow_of_root (hname : Name.ofPath root = ⟨root, []⟩) (room : Nat) (old : Option Tree)
    (value : String) : grow room old (root, value) = .ok (some (.value (.ofText value))) := by
  rw [grow, hname]
  rfl

theorem pathsOf_insert (hpath : pathOf? v.1 = some root) (hname : Name.ofPath root = ⟨root, []⟩)
    (hafter : ∀ w ∈ after, ¬ Names w.1 root) :
    pathsOf root (collect (before ++ v :: after)) =
      setEntry (pathsOf root (collect (before ++ after))) root v.2 := by
  have hv : part [v] root = [v] := by
    rw [part, List.filter_cons_of_pos (by simp [rootOf?_of_path hpath, hname]), List.filter_nil]
  rw [pathsOf_collect, pathsOf_collect, List.append_cons, part_append, part_append, part_append, hv,
    part_eq_nil hafter, List.append_nil, List.append_nil, collect_concat, collectOne_of_path hpath]

/-- The entry that is visited last stays so when its value changes. -/
theorem visit_setEntry_of_last {o : VisitOrder} {table visited : List (String × String)}
    (hnodup : (table.map Prod.fst).Nodup) (h : o.visit Prod.fst table = visited ++ [v])
    (value : String) :
    o.visit Prod.fst (setEntry table v.1 value) = visited ++ [(v.1, value)] := by
  have hmem : v ∈ table := by
    rw [← (o.visit_perm Prod.fst table).mem_iff, h]
    simp
  obtain ⟨before, after, rfl⟩ := List.append_of_mem hmem
  rw [List.map_append, List.map_cons, List.nodup_middle, List.nodup_cons, ← List.map_append]
    at hnodup
  have hothers : ∀ w ∈ before ++ after, w.1 ≠ v.1 := fun w hw heq =>
    hnodup.1 (heq ▸ List.mem_map_of_mem hw)
  have hset : setEntry (before ++ v :: after) v.1 value = before ++ after ++ [(v.1, value)] := by
    rw [setEntry, List.filter_append, List.filter_cons_of_neg (by simp), ← List.filter_append,
      List.filter_eq_self.mpr fun w hw => by simpa using hothers w hw]
  rw [hset]
  exact VisitOrder.visit_concat_of_last (a := v) rfl hothers h

/-- Where a setting has a value or none, its own path comes last when it is set. -/
theorem visit_setEntry_root {table : List (String × String)} {old : Option Tree}
    (hnodup : (table.map Prod.fst).Nodup)
    (hroot : ∀ w ∈ table, (Name.ofPath w.1).root = root)
    (h : (m.variableOrder.visit Prod.fst table).foldlM (grow m.room) none = .ok old)
    (hold : ∀ t, old = some t → ∃ x, t = .value x) (value : String) :
    ∃ visited old', visited.foldlM (grow m.room) none = .ok old' ∧
      m.variableOrder.visit Prod.fst (setEntry table root value) = visited ++ [(root, value)] := by
  rcases List.eq_nil_or_concat (m.variableOrder.visit Prod.fst table) with hnil | ⟨visited, y, hlast⟩
  · obtain rfl : table = [] := List.perm_nil.mp (hnil ▸ (m.variableOrder.visit_perm ..).symm)
    exact ⟨[], none, rfl, List.perm_singleton.mp (m.variableOrder.visit_perm ..)⟩
  · rw [List.concat_eq_append] at hlast
    rw [hlast, List.foldlM_append] at h
    obtain ⟨old', hold', hy⟩ := bind_ok.mp h
    rw [List.foldlM_cons] at hy
    obtain ⟨tree, hgrow, htree⟩ := bind_ok.mp hy
    obtain rfl : tree = old := Except.ok.inj htree
    obtain ⟨t, -, rfl⟩ := map_ok.mp hgrow
    obtain ⟨x, rfl⟩ := hold t rfl
    have hmem : y ∈ table := by
      rw [← (m.variableOrder.visit_perm Prod.fst _).mem_iff, hlast]
      simp
    have hy : root = y.1 := by
      rw [← hroot y hmem, root_of_steps_eq_nil (steps_eq_nil_of_grow hgrow)]
    rw [hy]
    exact ⟨visited, old', hold', visit_setEntry_of_last hnodup hlast value⟩

/-- A variable that holds a whole setting gives it its value, if the setting had a value or none
before and no later variable belongs to it. -/
theorem treeOf_insert (hpath : pathOf? v.1 = some root) (hname : Name.ofPath root = ⟨root, []⟩)
    (hafter : ∀ w ∈ after, ¬ Names w.1 root) {old : Option Tree}
    (h : treeOf m (before ++ after) root = .ok old) (hold : ∀ t, old = some t → ∃ x, t = .value x) :
    treeOf m (before ++ v :: after) root = .ok (some (.value (.ofText v.2))) := by
  have hnodup : ((pathsOf root (collect (before ++ after))).map Prod.fst).Nodup :=
    (List.filter_sublist.map Prod.fst).nodup (nodup_collect _)
  obtain ⟨visited, old', hfold, hvisit⟩ := visit_setEntry_root hnodup
    (fun w hw => of_decide_eq_true (List.mem_filter.mp hw).2) h hold v.2
  rw [treeOf, pathsOf_insert hpath hname hafter, hvisit, List.foldlM_append, hfold]
  exact bind_ok.mpr ⟨old', rfl, bind_ok.mpr ⟨_, grow_of_root hname m.room old' v.2, rfl⟩⟩

theorem value_of_reads_pattern {t : Tree} {s : Settings} (h : Field.pattern.Reads (some t) s) :
    ∃ x, t = .value x := by
  cases t with
  | value x => exact ⟨x, rfl⟩
  | table | list => contradiction

/-- A variable for the pattern sets the pattern, to the text of its value, and nothing else. -/
theorem ofEnvironment_insert_pattern {s : Settings} (hpath : pathOf? v.1 = some "pattern")
    (hafter : ∀ w ∈ after, ¬ Names w.1 "pattern") (h : ofEnvironment m (before ++ after) = .ok s) :
    ofEnvironment m (before ++ v :: after) =
      .ok { s with pattern := some (Scalar.ofText v.2).asText } := by
  rw [ofEnvironment_eq_ok_iff] at h ⊢
  obtain ⟨htrees, hfields⟩ := h
  obtain ⟨old, hold, hreads⟩ := hfields .pattern
  have hpattern := treeOf_insert hpath rfl hafter hold fun t ht => value_of_reads_pattern (ht ▸ hreads)
  have hother (root : String) (hroot : root ≠ "pattern") :
      treeOf m (before ++ v :: after) root = treeOf m (before ++ after) root := by
    have hv : part [v] root = [] := by
      refine part_eq_nil fun w hw hnames => hroot ?_
      rw [List.mem_singleton.mp hw, names_iff, rootOf?_of_path hpath] at hnames
      exact (Option.some.inj hnames).symm
    refine treeOf_congr ?_
    rw [List.append_cons, part_append, part_append, part_append, hv, List.append_nil]
  refine ⟨fun root => ?_, fun k => ?_⟩
  · by_cases hroot : root = "pattern"
    · exact ⟨_, hroot ▸ hpattern⟩
    · exact hother root hroot ▸ htrees root
  · by_cases hk : k = .pattern
    · subst hk
      exact ⟨_, hpattern, rfl⟩
    · obtain ⟨tree, htree, hread⟩ := hfields k
      refine ⟨tree, (hother k.key fun hkey => hk (Field.key_injective hkey)) ▸ htree, ?_⟩
      cases k <;> first | exact hread | contradiction

end Last

end RollCall.Settings
