import Mathlib.Algebra.GroupWithZero.Nat
/-!
# Changing one entry of a list

* `map_modify`: what a view of every entry shows after one entry has changed.
* `map_modify_same`, `bind_modify`: a view that the entry keeps, and a view of one entry.
* `modify_congr`, `modify_same`: two changes that agree on the entry that they change, and a change that
  leaves it as it is.
* `modify_concat`: changing the last entry.
* `modify_cases`: which entries there are after one has changed.
* `concat_cases`: which entries there are after one was added.
* `countP_modify`, `sum_modify`: how a count and a sum change with one entry.
* `filterMap_single`: what only one entry is mapped to.
* `getElem?_extends`, `prefix_concat`: a list that another begins with, and its next entry.
* `eq_of_prefix_of_nodup`: when there is no next entry.
-/
namespace Sluice
variable {α β : Type}

theorem map_modify {f : α → α} {g : α → β} {k : β → β} (l : List α) (i : Nat)
    (h : ∀ a, l[i]? = some a → g (f a) = k (g a)) :
    (l.modify i f).map g = (l.map g).modify i k := by
  refine List.ext_getElem? fun j => ?_
  simp only [List.getElem?_map, List.getElem?_modify]
  by_cases hj : i = j
  · subst hj
    cases hl : l[i]? with
    | none => rfl
    | some a => simp [h a hl]
  · simp [hj]

theorem modify_congr {f g : α → α} (l : List α) (i : Nat)
    (h : ∀ a, l[i]? = some a → f a = g a) : l.modify i f = l.modify i g := by
  have := map_modify (g := id) l i h
  simpa using this

/-- A change that leaves the entry as it is. -/
theorem modify_same {f : α → α} (l : List α) (i : Nat) (h : ∀ a, l[i]? = some a → f a = a) :
    l.modify i f = l := by
  rw [modify_congr l i (g := id) h, List.modify_id]

/-- A view of all entries that one entry keeps when it changes. -/
theorem map_modify_same {f : α → α} {g : α → β} (l : List α) (i : Nat)
    (h : ∀ a, l[i]? = some a → g (f a) = g a) : (l.modify i f).map g = l.map g := by
  rw [map_modify (k := id) l i h, List.modify_id]

/-- A view of one entry after one has changed. -/
theorem bind_modify {g : α → Option β} {f : α → α} {l : List α} {i : Nat} {a : α}
    (h : l[i]? = some a) (j : Nat) :
    (l.modify i f)[j]?.bind g = if j = i then g (f a) else l[j]?.bind g := by
  rw [List.getElem?_modify]
  by_cases hj : i = j
  · subst hj
    simp [h]
  · simp [hj, Ne.symm hj]

/-- A view of one entry that it keeps when it changes. -/
theorem bind_modify_same {g : α → Option β} {f : α → α} (l : List α) (i : Nat)
    (h : ∀ a, l[i]? = some a → g (f a) = g a) (j : Nat) :
    (l.modify i f)[j]?.bind g = l[j]?.bind g := by
  cases hi : l[i]? with
  | none => rw [List.modify_eq_self (by simpa using hi)]
  | some a =>
    rw [bind_modify hi, h a hi]
    split
    · next hj => rw [hj, hi]; rfl
    · rfl

theorem modify_concat (f : α → α) (l : List α) (a : α) :
    (l ++ [a]).modify l.length f = l ++ [f a] := by
  induction l with
  | nil => rfl
  | cons b l ih => simp [ih]

/-- An entry after one has changed is an old one, or the one that has changed. -/
theorem modify_cases {f : α → α} {l : List α} {i j : Nat} {b : α} (h : (l.modify i f)[j]? = some b) :
    l[j]? = some b ∨ i = j ∧ ∃ a, l[i]? = some a ∧ b = f a := by
  rw [List.getElem?_modify] at h
  by_cases hi : i = j
  · subst hi
    obtain ⟨a, ha, hb⟩ := Option.map_eq_some_iff.mp h
    exact .inr ⟨rfl, a, ha, by rw [← hb, if_pos rfl]⟩
  · simp only [if_neg hi, Option.map_eq_map, Option.map_id_fun'] at h
    exact .inl h

/-- An entry after one was added is an old one, or the one that was added. -/
theorem concat_cases {l : List α} {a b : α} {i : Nat} (h : (l ++ [a])[i]? = some b) :
    l[i]? = some b ∨ i = l.length ∧ b = a := by
  rw [List.getElem?_append] at h
  split at h
  · exact .inl h
  · next hge =>
    rw [List.getElem?_singleton] at h
    split at h
    · cases h
      exact .inr ⟨by omega, rfl⟩
    · cases h

theorem countP_modify (p : α → Bool) (f : α → α) (l : List α) {i : Nat} {a : α}
    (h : l[i]? = some a) :
    (l.modify i f).countP p + (if p a then 1 else 0) = l.countP p + (if p (f a) then 1 else 0) := by
  induction l generalizing i with
  | nil => simp at h
  | cons b l ih =>
    cases i with
    | zero =>
      simp only [List.getElem?_cons_zero, Option.some.injEq] at h
      subst h
      simp only [List.modify_zero_cons, List.countP_cons]
      omega
    | succ i =>
      have := ih (by simpa using h)
      simp only [List.modify_succ_cons, List.countP_cons]
      omega

theorem sum_modify (g : α → Nat) (f : α → α) (l : List α) {i : Nat} {a : α} (h : l[i]? = some a) :
    ((l.modify i f).map g).sum + g a = (l.map g).sum + g (f a) := by
  induction l generalizing i with
  | nil => simp at h
  | cons b l ih =>
    cases i with
    | zero =>
      simp only [List.getElem?_cons_zero, Option.some.injEq] at h
      subst h
      simp only [List.modify_zero_cons, List.map_cons, List.sum_cons]
      omega
    | succ i =>
      have := ih (by simpa using h)
      simp only [List.modify_succ_cons, List.map_cons, List.sum_cons]
      omega

/-- Of a list without repetition, what only one entry is mapped to. -/
theorem filterMap_single {f : α → Option β} {l : List α} {a : α} {b : β} (hl : l.Nodup) (ha : a ∈ l)
    (hb : f a = some b) (hn : ∀ x ∈ l, x ≠ a → f x = none) : l.filterMap f = [b] := by
  induction l with
  | nil => cases ha
  | cons x l ih =>
    obtain ⟨hx, hl⟩ := List.nodup_cons.mp hl
    by_cases hax : x = a
    · subst hax
      have hrest : l.filterMap f = [] := List.filterMap_eq_nil_iff.mpr fun y hy =>
        hn y (List.mem_cons_of_mem _ hy) fun e => hx (e ▸ hy)
      rw [List.filterMap_cons, hb, hrest]
    · rw [List.filterMap_cons, hn x List.mem_cons_self hax]
      exact ih hl (List.mem_of_ne_of_mem (Ne.symm hax) ha) fun y hy =>
        hn y (List.mem_cons_of_mem _ hy)

theorem getElem?_extends {l r : List α} {i : Nat} {a : α} (h : l <+: r) (hi : l[i]? = some a) :
    r[i]? = some a := by
  obtain ⟨rest, rfl⟩ := h
  rw [List.getElem?_append_left (List.getElem?_eq_some_iff.mp hi).1]
  exact hi

theorem prefix_concat {l r : List α} {a : α} (h : l <+: r) (ha : r[l.length]? = some a) :
    l ++ [a] <+: r := by
  obtain ⟨rest, rfl⟩ := h
  cases rest with
  | nil => simp at ha
  | cons b rest =>
    obtain rfl : b = a := by simpa using ha
    exact ⟨rest, by simp⟩

/-- Nothing can come after all of a list without repetition. -/
theorem eq_of_prefix_of_nodup {l r : List α} (h : l <+: r) (hd : r.Nodup) (hm : ∀ a ∈ r, a ∈ l) :
    r = l := by
  obtain ⟨rest, rfl⟩ := h
  have hnil : rest = [] := List.eq_nil_iff_forall_not_mem.mpr fun a ha =>
    (List.nodup_append.mp hd).2.2 a (hm a (List.mem_append_right _ ha)) a ha rfl
  rw [hnil, List.append_nil]

end Sluice
