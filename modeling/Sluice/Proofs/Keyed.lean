import Sluice.Keyed
/-!
# Maps with text keys

The entries of a map stand in ascending order of their keys, so that maps with the same entries are
equal, in whatever way they were built.

* `Ascending`: the order of the entries, kept by `insert`, `putAll` and `ofList`.
* `insert_last`: a key above all others goes to the end.
* `get?_eq_some`: what is found is what is in the map.
* `Ascending.ext`: maps with the same entries are equal.
* `mem_ofList`, `ofList_perm`: a map holds the entries it was made of, in whatever order they came.
-/
namespace Sluice.Keyed
variable {α : Type}

/-- The entries of `m` are in ascending order of their keys. -/
def Ascending (m : Keyed α) : Prop := m.Pairwise fun a b => a.1 < b.1

instance (m : Keyed α) : Decidable (Ascending m) :=
  inferInstanceAs (Decidable (m.Pairwise fun a b => a.1 < b.1))

/-- Inserts entries one after the other. -/
def putAll (entries : List (String × α)) (m : Keyed α) : Keyed α :=
  entries.foldl (fun m e => insert e.1 e.2 m) m

theorem mem_of_mem_insert {key : String} {value : α} {e : String × α} {m : Keyed α}
    (h : e ∈ insert key value m) : e = (key, value) ∨ e ∈ m := by
  induction m with
  | nil => exact .inl (List.mem_singleton.mp h)
  | cons a m ih => rw [insert] at h; grind

theorem lt_of_not_le {a b : String} (ne : a ≠ b) (h : ¬a < b) : b < a :=
  Decidable.by_contra fun hb => ne (String.le_antisymm (String.not_lt.mp hb) (String.not_lt.mp h))

theorem ne_of_lt {a b : String} (h : a < b) : a ≠ b := fun heq => String.lt_irrefl _ (heq ▸ h)

theorem ascending_nil : Ascending ([] : Keyed α) := List.Pairwise.nil

theorem Ascending.insert {m : Keyed α} (h : Ascending m) (key : String) (value : α) :
    Ascending (m.insert key value) := by
  induction m with
  | nil => exact List.pairwise_singleton ..
  | cons a m ih =>
    obtain ⟨k, v⟩ := a
    have above := (List.pairwise_cons.mp h).1
    have rest := (List.pairwise_cons.mp h).2
    rw [Keyed.insert]
    split
    · next same => subst same; exact List.pairwise_cons.mpr ⟨above, rest⟩
    · next ne =>
      split
      · next below =>
        refine List.pairwise_cons.mpr ⟨fun e he => ?_, h⟩
        rcases List.mem_cons.mp he with rfl | he
        · exact below
        · exact String.lt_trans below (above e he)
      · next not_below =>
        refine List.pairwise_cons.mpr ⟨fun e he => ?_, ih rest⟩
        rcases mem_of_mem_insert he with rfl | he
        · exact lt_of_not_le ne not_below
        · exact above e he

theorem Ascending.putAll {m : Keyed α} (h : Ascending m) (entries : List (String × α)) :
    Ascending (m.putAll entries) := by
  induction entries generalizing m with
  | nil => exact h
  | cons e entries ih => exact ih (h.insert e.1 e.2)

theorem ascending_ofList (entries : List (String × α)) : Ascending (ofList entries) :=
  ascending_nil.putAll entries

theorem Ascending.nodup {m : Keyed α} (h : Ascending m) : m.keys.Nodup :=
  List.pairwise_map.mpr (h.imp fun hlt => ne_of_lt hlt)

theorem Ascending.entries_nodup {m : Keyed α} (h : Ascending m) : List.Nodup m :=
  List.Pairwise.imp (fun hlt heq => ne_of_lt hlt (congrArg Prod.fst heq)) h

theorem Ascending.filter {m : Keyed α} (h : Ascending m) (p : String × α → Bool) :
    Ascending (List.filter p m) :=
  List.Pairwise.sublist List.filter_sublist h

/-- A key above all keys of a map goes to its end. -/
theorem insert_last {key : String} (value : α) {m : Keyed α} (above : ∀ e ∈ m, e.1 < key) :
    insert key value m = m ++ [(key, value)] := by
  induction m with
  | nil => rfl
  | cons a m ih =>
    have hlt : a.1 < key := above a List.mem_cons_self
    rw [insert, if_neg (ne_of_lt hlt).symm, if_neg (String.lt_asymm hlt),
      ih fun e he => above e (List.mem_cons_of_mem a he), List.cons_append]

/-! ## What is found -/

theorem get?_eq_none {m : Keyed α} {key : String} : m.get? key = none ↔ key ∉ m.keys := by
  induction m with
  | nil => simp [get?, keys]
  | cons e m ih =>
    obtain ⟨k, v⟩ := e
    simp only [keys, List.map_cons, List.mem_cons, not_or] at ih ⊢
    rw [get?, ← ih]
    split
    · next h => simp [h]
    · next h => simp [Ne.symm h]

/-- Where keys differ, what is found under a key is what stands beside it. -/
theorem get?_eq_some {m : Keyed α} (distinct : m.keys.Nodup) {key : String} {value : α} :
    m.get? key = some value ↔ (key, value) ∈ m := by
  induction m with
  | nil => simp [get?]
  | cons e m ih =>
    obtain ⟨k, v⟩ := e
    have fresh : k ∉ keys m := (List.nodup_cons.mp distinct).1
    rw [get?, List.mem_cons, ← ih (List.nodup_cons.mp distinct).2]
    split
    · next h =>
      subst h
      simp [get?_eq_none.mpr fresh, eq_comm]
    · next h => simp [Ne.symm h]

/-- Maps with the same entries are equal. -/
theorem Ascending.ext {m n : Keyed α} (hm : Ascending m) (hn : Ascending n)
    (same : ∀ e, e ∈ m ↔ e ∈ n) : m = n :=
  ((List.perm_ext_iff_of_nodup hm.entries_nodup hn.entries_nodup).mpr same).eq_of_pairwise
    (fun _ _ _ _ hab hba => absurd hba (String.lt_asymm hab)) hm hn

theorem get?_putAll {entries : List (String × α)} (distinct : (keys entries).Nodup) (m : Keyed α)
    (key : String) : get? key (m.putAll entries) = (get? key entries).or (m.get? key) := by
  induction entries generalizing m with
  | nil => rfl
  | cons e entries ih =>
    obtain ⟨k, v⟩ := e
    have fresh : k ∉ keys entries := (List.nodup_cons.mp distinct).1
    show get? key (putAll entries (insert k v m)) = _
    rw [ih (List.nodup_cons.mp distinct).2, get?_insert, get?]
    by_cases h : key = k
    · subst h
      simp [get?_eq_none.mpr fresh]
    · simp [h, Ne.symm h]

/-- The map of entries with different keys has these entries. -/
theorem mem_ofList {entries : List (String × α)} (distinct : (keys entries).Nodup)
    {e : String × α} : e ∈ ofList entries ↔ e ∈ entries := by
  obtain ⟨k, v⟩ := e
  rw [← get?_eq_some (ascending_ofList entries).nodup, ← get?_eq_some distinct]
  show get? k (putAll entries []) = some v ↔ _
  rw [get?_putAll distinct, get?, Option.or_none]

/-- The order in which entries with different keys are inserted does not matter. -/
theorem ofList_perm {entries entries' : List (String × α)} (distinct : (keys entries).Nodup)
    (perm : entries.Perm entries') : ofList entries = ofList entries' := by
  have distinct' : (keys entries').Nodup := (perm.map Prod.fst).nodup_iff.mp distinct
  refine (ascending_ofList entries).ext (ascending_ofList entries') fun e => ?_
  rw [mem_ofList distinct, mem_ofList distinct', perm.mem_iff]

end Sluice.Keyed
