import Sluice.Pending
/-!
# How many entries wait

Every number has at most one entry, so an entry that is taken out is the only one that goes, and an
entry under a new number is the only one that comes.

* `length_remove`: taking out an entry that is there leaves one less.
* `length_store`: storing an entry under a new number leaves one more.
* `get?_mapEntries`, `remove_mapEntries`, `store_mapEntries`: entries of which only a part is kept.
-/
namespace Sluice.Pending
variable {α β : Type} {p : Pending α} {id : Nat}

/-- Every number has at most one entry. -/
def Distinct (p : Pending α) : Prop := (p.map Prod.fst).Nodup

theorem get?_eq_none_iff : p.get? id = none ↔ id ∉ p.map Prod.fst := by
  simp only [get?, List.lookup_eq_none_iff, List.mem_map, not_exists, not_and, bne_iff_ne]
  exact ⟨fun h e he hid => h e he hid.symm, fun h e he hid => h e he hid.symm⟩

theorem remove_of_get?_none (h : p.get? id = none) : p.remove id = p := by
  rw [get?_eq_none_iff] at h
  refine List.filter_eq_self.mpr fun e he => decide_eq_true fun hid => h ?_
  exact hid ▸ List.mem_map_of_mem he

theorem mem_of_get? {e : α} (h : p.get? id = some e) : (id, e) ∈ p := by
  induction p with
  | nil => simp [get?] at h
  | cons x p ih =>
    obtain ⟨n, a⟩ := x
    simp only [get?, List.lookup_cons] at h ih
    split at h
    · next hn =>
      simp only [beq_iff_eq] at hn
      cases h
      exact hn ▸ List.mem_cons_self
    · exact List.mem_cons_of_mem _ (ih h)

theorem mem_of_mem_remove {e : Nat × α} (h : e ∈ p.remove id) : e ∈ p := (List.mem_filter.mp h).1

theorem mem_store {x : Nat × α} {e : α} (h : x ∈ (p.store id e).2) : x ∈ p ∨ x = (id, e) := by
  rcases List.mem_append.mp h with h | h
  · exact .inl (mem_of_mem_remove h)
  · exact .inr (List.mem_singleton.mp h)

theorem Distinct.remove (h : p.Distinct) (id : Nat) : (p.remove id).Distinct :=
  List.Nodup.sublist (List.filter_sublist.map _) h

theorem not_mem_remove (p : Pending α) (id : Nat) : id ∉ (p.remove id).map Prod.fst := by
  intro h
  obtain ⟨e, he, hid⟩ := List.mem_map.mp h
  simpa [hid] using (List.mem_filter.mp he).2

theorem Distinct.store (h : p.Distinct) (id : Nat) (e : α) : (p.store id e).2.Distinct := by
  unfold Pending.store Distinct
  rw [List.map_append]
  refine List.nodup_append.mpr ⟨h.remove id, by simp, fun a ha b hb he => ?_⟩
  simp only [List.map_cons, List.map_nil, List.mem_singleton] at hb
  exact not_mem_remove p id ((he.trans hb) ▸ ha)

theorem length_remove {e : α} (h : p.Distinct) (hg : p.get? id = some e) :
    (p.remove id).length + 1 = p.length := by
  induction p with
  | nil => simp [get?] at hg
  | cons x p ih =>
    obtain ⟨n, a⟩ := x
    simp only [Distinct, List.map_cons, List.nodup_cons] at h
    by_cases hn : n = id
    · have hr := remove_of_get?_none (get?_eq_none_iff.mpr (hn ▸ h.1))
      simp only [remove] at hr ⊢
      rw [List.filter_cons_of_neg (by simp [hn]), hr, List.length_cons]
    · have hg' : Pending.get? p id = some e := by
        have hb : (id == n) = false := by simpa using fun h => hn h.symm
        simpa [get?, List.lookup_cons, hb] using hg
      have := ih h.2 hg'
      simp only [remove] at this ⊢
      rw [List.filter_cons_of_pos (by simp [hn]), List.length_cons, List.length_cons, this]

theorem length_store (p : Pending α) (id : Nat) (e : α) :
    (p.store id e).2.length = (p.remove id).length + 1 := by simp [store]

theorem length_store_new (h : p.get? id = none) (e : α) :
    (p.store id e).2.length = p.length + 1 := by rw [length_store, remove_of_get?_none h]

/-- What is there is found. -/
theorem Distinct.get? {e : α} (h : p.Distinct) (he : (id, e) ∈ p) : p.get? id = some e := by
  induction p with
  | nil => cases he
  | cons x p ih =>
    obtain ⟨n, a⟩ := x
    simp only [Distinct, List.map_cons, List.nodup_cons] at h
    rcases List.mem_cons.mp he with he | he
    · cases he
      simp [Pending.get?]
    · have hn : id ≠ n := fun hn => h.1 (hn ▸ List.mem_map_of_mem he)
      have hb : (id == n) = false := by simpa using hn
      simpa [Pending.get?, List.lookup_cons, hb] using ih h.2 he

/-! ## Entries of which only a part is kept -/

/-- The same entries, changed one by one. -/
def mapEntries (f : α → β) (p : Pending α) : Pending β := p.map fun x => (x.1, f x.2)

theorem get?_mapEntries (f : α → β) (p : Pending α) (id : Nat) :
    (p.mapEntries f).get? id = (p.get? id).map f := by
  induction p with
  | nil => rfl
  | cons x p ih =>
    obtain ⟨n, a⟩ := x
    simp only [get?, mapEntries, List.map_cons, List.lookup_cons] at ih ⊢
    split
    · rfl
    · exact ih

theorem remove_mapEntries (f : α → β) (p : Pending α) (id : Nat) :
    (p.mapEntries f).remove id = (p.remove id).mapEntries f := by
  unfold mapEntries remove
  rw [List.filter_map]
  rfl

theorem store_mapEntries (f : α → β) (p : Pending α) (id : Nat) (e : α) :
    ((p.mapEntries f).store id (f e)).2 = (p.store id e).2.mapEntries f := by
  unfold store
  rw [remove_mapEntries]
  simp [mapEntries]

theorem length_mapEntries (f : α → β) (p : Pending α) : (p.mapEntries f).length = p.length :=
  List.length_map ..

end Sluice.Pending
