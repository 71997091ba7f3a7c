import RollCall.Proofs.Settings.Parts

/-! Where the order in which tables are visited makes no difference to settings, and what difference
it makes where several settings are invalid. -/
namespace RollCall.Settings

/-- Each variable has a root of its own, and there is room for every index. -/
structure Plain (room : Nat) (env : Environment) : Prop where
  distinct : DistinctRoots env
  fits : ∀ v ∈ env, Fits room v

/-- The variables of this setting alone lead to an error. -/
def Fails (m : Machine) (env : Environment) (k : Field) (e : Invalid) : Prop :=
  ofEnvironment m (part env k.key) = .error (.invalid e)

namespace Plain

variable {m m' : Machine} {env : Environment} {t : Settings} {k : Field} {tree : Option Tree}
  {e : Invalid}

theorem not_crash (h : Plain m.room env) (c : Crash) : ofEnvironment m env ≠ .error (.crash c) :=
  Settings.not_crash (exists_treeOf_of_fits h.fits) c

theorem exists_treeOf_part (h : Plain m.room env) (k : Field) (root : String) :
    ∃ tree, treeOf m (part env k.key) root = .ok tree :=
  exists_treeOf_of_fits (fun v hv => h.fits v (mem_part_iff.mp hv).1) root

/-- A setting that refuses its tree fails by itself. -/
theorem fails_of_refuses (h : Plain m.room env) (htree : treeOf m env k.key = .ok tree)
    (hrefuses : k.Refuses tree e) : Fails m env k e := by
  cases hload : ofEnvironment m (part env k.key) with
  | ok u =>
    obtain ⟨tree', htree', hreads⟩ := (ofEnvironment_eq_ok_iff.mp hload).2 k
    rw [treeOf_part, htree] at htree'
    obtain rfl := Except.ok.inj htree'
    exact absurd hreads (hrefuses.not_reads u)
  | error b =>
    cases b with
    | crash c => exact absurd hload (Settings.not_crash (h.exists_treeOf_part k) c)
    | invalid e' =>
      obtain ⟨j, tree', htree', hrefuses'⟩ := exists_refuses_of_ofEnvironment hload
      by_cases hj : k.key = j.key
      · obtain rfl := Field.key_injective hj
        rw [treeOf_part, htree] at htree'
        obtain rfl := Except.ok.inj htree'
        have he : e = e' := Except.error.inj ((hrefuses {}).symm.trans (hrefuses' {}))
        rw [Fails, hload, he]
      · rw [treeOf_part_of_ne hj] at htree'
        obtain rfl := Except.ok.inj htree'
        exact absurd j.reads_none (hrefuses'.not_reads {})

theorem exists_fails (h : Plain m.room env) (hload : ofEnvironment m env = .error (.invalid e)) :
    ∃ k, Fails m env k e := by
  obtain ⟨k, tree, htree, hrefuses⟩ := exists_refuses_of_ofEnvironment hload
  exact ⟨k, h.fails_of_refuses htree hrefuses⟩

/-- What a setting is complained of for does not depend on the order. -/
theorem fails_iff (h : Plain m.room env) (hroom : m.room = m'.room) :
    Fails m env k e ↔ Fails m' env k e := by
  have hcongr {m m' : Machine} (h : Plain m.room env) (hroom : m.room = m'.room)
      (hfails : Fails m env k e) : Fails m' env k e := by
    obtain ⟨j, tree, htree, hrefuses⟩ := exists_refuses_of_ofEnvironment hfails
    have hj : k.key = j.key := by
      by_contra hj
      rw [treeOf_part_of_ne hj] at htree
      obtain rfl := Except.ok.inj htree
      exact absurd j.reads_none (hrefuses.not_reads {})
    obtain rfl := Field.key_injective hj
    rw [treeOf_part, h.distinct.treeOf_eq hroom] at htree
    exact fails_of_refuses (hroom ▸ h) htree hrefuses
  exact ⟨hcongr h hroom, hcongr (hroom ▸ h) hroom.symm⟩

/-- In another order the same settings are loaded, or none; of several that are invalid, another one
may be complained of. -/
theorem ofEnvironment_eq_or (h : Plain m.room env) (hroom : m.room = m'.room) :
    ofEnvironment m env = ofEnvironment m' env ∨
      ∃ j k e e', j ≠ k ∧ Fails m env j e ∧ Fails m env k e' ∧
        ofEnvironment m env = .error (.invalid e) ∧
        ofEnvironment m' env = .error (.invalid e') := by
  have h' : Plain m'.room env := hroom ▸ h
  have hloaded (t : Settings) : ofEnvironment m env = .ok t ↔ ofEnvironment m' env = .ok t :=
    (LoadsAs.of_treeOf (exists_treeOf_of_fits h'.fits) (exists_treeOf_of_fits h.fits) fun k =>
      h.distinct.treeOf_eq hroom k.key).loaded_iff t
  cases hm : ofEnvironment m env with
  | ok t => exact Or.inl ((hloaded t).mp hm).symm
  | error b =>
    cases hm' : ofEnvironment m' env with
    | ok t =>
      rw [(hloaded t).mpr hm'] at hm
      contradiction
    | error b' =>
      cases b with
      | crash c => exact absurd hm (h.not_crash c)
      | invalid e =>
        cases b' with
        | crash c => exact absurd hm' (h'.not_crash c)
        | invalid e' =>
          obtain ⟨j, hj⟩ := h.exists_fails hm
          obtain ⟨k, hk⟩ := h'.exists_fails hm'
          rw [← h.fails_iff hroom] at hk
          by_cases hjk : j = k
          · subst hjk
            rw [Fails, hj, Except.error.injEq, Obstacle.invalid.injEq] at hk
            exact Or.inl (by rw [hk])
          · exact Or.inr ⟨j, k, e, e', hjk, hj, hk, rfl, rfl⟩

end Plain

end RollCall.Settings
