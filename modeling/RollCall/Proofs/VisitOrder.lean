import Mathlib.Data.List.Nodup
import Mathlib.Data.List.Perm.Basic
import RollCall.Machine

/-! Visiting a table in some order: every entry is visited once, and the entries that are left when
others are taken out are visited in the order that they had among these. -/
namespace RollCall.VisitOrder

variable {α : Type} {key : α → String} {table : List α} {a b : α}

private theorem flatMap_filter_perm {keys : List String} (h : keys.Nodup) (table : List α) :
    (keys.flatMap fun k => table.filter (key · = k)).Perm
      (table.filter fun a => keys.contains (key a)) := by
  induction keys with
  | nil => simp
  | cons k keys ih =>
    obtain ⟨hk, hnodup⟩ := List.nodup_cons.mp h
    have hfirst : (table.filter fun a => (k :: keys).contains (key a)).filter (key · = k) =
        table.filter (key · = k) := by
      rw [List.filter_filter]
      refine List.filter_congr fun a _ => ?_
      by_cases ha : key a = k <;> simp [ha]
    have hothers : (table.filter fun a => (k :: keys).contains (key a)).filter
        (fun a => !decide (key a = k)) = table.filter fun a => keys.contains (key a) := by
      rw [List.filter_filter]
      refine List.filter_congr fun a _ => ?_
      by_cases ha : key a = k
      · simp [ha, hk]
      · simp [ha]
    have hsplit := List.filter_append_perm (key · = k)
      (table.filter fun a => (k :: keys).contains (key a))
    rw [hfirst, hothers] at hsplit
    exact ((ih hnodup).append_left _).trans hsplit

theorem visit_perm (o : VisitOrder) (key : α → String) (table : List α) :
    (o.visit key table).Perm table :=
  ((flatMap_filter_perm o.nodup table).append_right _).trans (List.filter_append_perm ..)

theorem visit_filter (o : VisitOrder) (key : α → String) (p : α → Bool) (table : List α) :
    o.visit key (table.filter p) = (o.visit key table).filter p := by
  simp only [visit, List.filter_append, List.filter_flatMap, List.filter_filter, Bool.and_comm]

section Last

variable {before after others : List α} {k : String} {p : String → Bool}

private theorem filter_of_neg (hb : key b = k) (hp : p k = false) :
    (before ++ b :: after).filter (p ∘ key) = (before ++ after).filter (p ∘ key) := by
  rw [List.filter_append, List.filter_append, List.filter_cons_of_neg (by simp [hb, hp])]

private theorem filter_eq_singleton (hb : key b = k) (hothers : ∀ x ∈ before ++ after, key x ≠ k) :
    (before ++ b :: after).filter (key · = k) = [b] := by
  have hnone : (before ++ after).filter (key · = k) = [] :=
    List.filter_eq_nil_iff.mpr fun x hx => by simpa using hothers x hx
  obtain ⟨hnone, hnone'⟩ := List.append_eq_nil_iff.mp (List.filter_append .. ▸ hnone)
  rw [List.filter_append, List.filter_cons_of_pos (by simp [hb]), hnone, hnone']
  rfl

/-- The entries visited before and after one whose key comes in the order are told by the other
entries alone. -/
private theorem visit_of_mem {o : VisitOrder} (hk : k ∈ o.first)
    (hothers : ∀ x ∈ others, key x ≠ k) :
    ∃ front back, (∀ x ∈ back, key x ≠ k) ∧ ∀ before after b, before ++ after = others →
      key b = k → o.visit key (before ++ b :: after) = front ++ b :: back := by
  obtain ⟨keys, keys', hfirst⟩ := List.append_of_mem hk
  have hnodup := o.nodup
  rw [hfirst, List.nodup_middle, List.nodup_cons, List.mem_append, not_or] at hnodup
  refine ⟨keys.flatMap fun j => others.filter (key · = j),
    (keys'.flatMap fun j => others.filter (key · = j)) ++
      others.filter fun a => !o.first.contains (key a), fun x hx => ?_, ?_⟩
  · refine hothers x ?_
    rcases List.mem_append.mp hx with hx | hx
    · obtain ⟨j, -, hx⟩ := List.mem_flatMap.mp hx
      exact List.mem_of_mem_filter hx
    · exact List.mem_of_mem_filter hx
  · rintro before after b rfl hb
    have hother (keys : List String) (h : k ∉ keys) :
        (keys.flatMap fun j => (before ++ b :: after).filter (key · = j)) =
          keys.flatMap fun j => (before ++ after).filter (key · = j) := by
      refine List.flatMap_congr fun j hj => filter_of_neg (p := (· = j)) hb ?_
      exact decide_eq_false fun heq => h (heq ▸ hj)
    have hrest : (before ++ b :: after).filter (fun a => !o.first.contains (key a)) =
        (before ++ after).filter fun a => !o.first.contains (key a) :=
      filter_of_neg (p := fun j => !o.first.contains j) hb (by simpa using hk)
    have hlisted : (o.first.flatMap fun j => (before ++ b :: after).filter (key · = j)) =
        (keys.flatMap fun j => (before ++ after).filter (key · = j)) ++
          b :: keys'.flatMap fun j => (before ++ after).filter (key · = j) := by
      rw [hfirst, List.flatMap_append, List.flatMap_cons, hother keys hnodup.1.1,
        hother keys' hnodup.1.2, filter_eq_singleton hb hothers]
      rfl
    rw [visit, hrest, hlisted, List.append_assoc, List.cons_append]

/-- An entry whose key is not in the order comes after all that stand before it. -/
theorem visit_concat_of_notMem {o : VisitOrder} (hb : key b ∉ o.first) (table : List α) :
    o.visit key (table ++ [b]) = o.visit key table ++ [b] := by
  rw [visit, visit, List.filter_append, List.filter_cons_of_pos (by simpa using hb),
    List.filter_nil, ← List.append_assoc]
  congr 2
  refine List.flatMap_congr fun k hk => ?_
  rw [List.filter_append, List.filter_cons_of_neg, List.filter_nil, List.append_nil]
  simpa using fun heq : key b = k => hb (heq ▸ hk)

private theorem visit_others {o : VisitOrder} {visited : List α}
    (hothers : ∀ x ∈ before ++ after, key x ≠ key a)
    (h : o.visit key (before ++ a :: after) = visited ++ [a]) :
    o.visit key (before ++ after) = visited := by
  have hperm : (a :: visited).Perm (a :: (before ++ after)) :=
    (List.perm_append_singleton a visited).symm.trans
      (h ▸ (o.visit_perm key _).trans List.perm_middle)
  have hkeep (l : List α) (hl : ∀ x ∈ l, key x ≠ key a) : l.filter (key · ≠ key a) = l :=
    List.filter_eq_self.mpr fun x hx => by simpa using hl x hx
  have hfilter := o.visit_filter key (key · ≠ key a) (before ++ a :: after)
  rw [h, List.filter_append, List.filter_append, List.filter_cons_of_neg (by simp),
    List.filter_cons_of_neg (by simp), List.filter_nil, List.append_nil, ← List.filter_append,
    hkeep _ hothers, hkeep visited fun x hx => hothers x (hperm.cons_inv.mem_iff.mp hx)] at hfilter
  exact hfilter

/-- An entry that is visited last stays so when it moves to the end of its table and the value in it
changes. -/
theorem visit_concat_of_last {o : VisitOrder} {visited : List α} (hb : key b = key a)
    (hothers : ∀ x ∈ before ++ after, key x ≠ key a)
    (h : o.visit key (before ++ a :: after) = visited ++ [a]) :
    o.visit key (before ++ after ++ [b]) = visited ++ [b] := by
  by_cases ha : key a ∈ o.first
  · obtain ⟨front, back, hback, hvisit⟩ := visit_of_mem ha hothers
    rw [hvisit before after a rfl rfl] at h
    rw [hvisit _ [] b (List.append_nil _) hb]
    rcases List.eq_nil_or_concat back with rfl | ⟨init, x, rfl⟩
    · rw [List.append_cancel_right h]
    · rw [List.concat_eq_append, ← List.cons_append, ← List.append_assoc] at h
      have hx : x = a := List.singleton_inj.mp (List.append_inj_right' h rfl)
      exact absurd (congrArg key hx) (hback x (by simp))
  · rw [visit_concat_of_notMem (hb ▸ ha), visit_others hothers h]

end Last

/-- A table without repeated keys can be visited in any order. -/
theorem exists_visit_eq {visited : List α} (hnodup : (table.map key).Nodup)
    (h : visited.Perm table) : ∃ o : VisitOrder, o.visit key table = visited := by
  have hkeys : (visited.map key).Nodup := (h.map key).nodup_iff.mpr hnodup
  refine ⟨⟨visited.map key, hkeys⟩, ?_⟩
  have hrest : (table.filter fun a => !(visited.map key).contains (key a)) = [] := by
    rw [List.filter_eq_nil_iff]
    intro a ha
    simpa using ⟨a, h.mem_iff.mpr ha, rfl⟩
  have hself (a : α) (ha : a ∈ visited) : table.filter (key · = key a) = [a] := by
    obtain ⟨before, after, rfl⟩ := List.append_of_mem (h.mem_iff.mp ha)
    rw [List.map_append, List.map_cons, List.nodup_middle, List.nodup_cons, ← List.map_append]
      at hnodup
    exact filter_eq_singleton rfl fun x hx heq => hnodup.1 (heq ▸ List.mem_map_of_mem hx)
  rw [visit, hrest, List.append_nil, List.flatMap_map, List.flatMap_congr hself]
  exact List.flatMap_singleton' visited

end RollCall.VisitOrder
