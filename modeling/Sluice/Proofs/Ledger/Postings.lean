import Sluice.Proofs.Pending
import Sluice.Tracker
/-!
# What is posted to a ledger

A ledger is asked to store entries and to apply results. What becomes of each entry follows from
these postings alone: it is removed by the next posting under its number, if one comes. Postings are
listed newest first, so the place of a posting is how many came before it.

* `standing`, `get?_standing_iff`: the entries that nothing has removed.
* `removals`, `mem_removals_iff`: the entries that were removed, and how.
* `nodup_removals`: no entry is removed twice.
* `length_stores`: each entry stands or was removed.
-/
namespace Sluice.Ledger

/-- What is asked of a ledger, apart from its slots. -/
inductive Posting where
  /-- An entry takes over a slot and is stored under a number. It is counted if its group has just
  been handed on. -/
  | store (counted : Bool) (slot id : Nat) (e : Tracked)
  | result (id : Nat) (delivered : Bool)
  deriving DecidableEq, Repr

/-- How an entry is removed. -/
inductive Manner where
  | delivered
  | undelivered
  /-- Another entry was stored under its number. -/
  | displaced
  deriving DecidableEq, Repr

/-- An entry that was stored: by which posting, with which slot. -/
structure Stored where
  place : Nat
  slot : Nat
  entry : Tracked
  deriving DecidableEq, Repr

namespace Posting

/-- The number that a posting is under. -/
def id : Posting → Nat
  | store _ _ k _ => k
  | result k _ => k

/-- How a posting removes the entry that stands under its number. -/
def manner : Posting → Manner
  | store .. => .displaced
  | result _ true => .delivered
  | result _ false => .undelivered

/-- Whether a posting stores an entry. -/
def isStore : Posting → Bool
  | store .. => true
  | result .. => false

end Posting

/-- The entries that nothing has removed, by their numbers. -/
def standing : List Posting → Pending Stored
  | [] => []
  | .store _ slot id e :: ps => ((standing ps).store id ⟨ps.length, slot, e⟩).2
  | .result id _ :: ps => (standing ps).remove id

/-- The entry that the next posting removes, and how. -/
def removed (p : Posting) (ps : List Posting) : List (Stored × Manner) :=
  (((standing ps).get? p.id).map fun s => (s, p.manner)).toList

/-- The entries that were removed, and how, in the order of their removals. -/
def removals : List Posting → List (Stored × Manner)
  | [] => []
  | p :: ps => removals ps ++ removed p ps

/-- The entries that were removed in one manner. -/
def removedAs (m : Manner) (ps : List Posting) : List Stored :=
  (removals ps).filterMap fun r => if r.2 = m then some r.1 else none

variable {id : Nat} {p : Posting} {ps : List Posting} {s t : Stored} {m : Manner}

/-! ## Which entries stand -/

theorem distinct_standing (ps : List Posting) : (standing ps).Distinct := by
  induction ps with
  | nil => exact List.nodup_nil
  | cons p ps ih =>
    cases p with
    | store => exact ih.store _ _
    | result => exact ih.remove _

/-- What stands under a number after one more posting. -/
theorem get?_standing_cons (p : Posting) (ps : List Posting) (id : Nat) :
    (standing (p :: ps)).get? id =
      if id = p.id then
        match p with
        | .store _ slot _ e => some ⟨ps.length, slot, e⟩
        | .result .. => none
      else (standing ps).get? id := by
  cases p with
  | store c slot k e => exact Pending.get?_store _ _ _ _
  | result k d => exact Pending.get?_remove _ _ _

/-- **Which entry stands under a number**: the one that was stored there most recently, if no result
has come since. -/
theorem get?_standing_iff : (standing ps).get? id = some s ↔
    ∃ newer c older, ps = newer ++ .store c s.slot id s.entry :: older ∧ s.place = older.length ∧
      ∀ p ∈ newer, p.id ≠ id := by
  induction ps with
  | nil => simp [standing, Pending.get?]
  | cons p ps ih =>
    rw [get?_standing_cons]
    constructor
    · intro h
      split at h
      · next hid =>
        cases p with
        | store c slot k e =>
          cases h
          exact ⟨[], c, ps, by rw [hid]; rfl, rfl, by simp⟩
        | result => cases h
      · next hid =>
        obtain ⟨newer, c, older, rfl, hp, hn⟩ := ih.mp h
        refine ⟨p :: newer, c, older, rfl, hp, fun q hq => ?_⟩
        rcases List.mem_cons.mp hq with rfl | hq
        · exact fun e => hid e.symm
        · exact hn q hq
    · rintro ⟨newer, c, older, he, hp, hn⟩
      cases newer with
      | nil =>
        obtain ⟨rfl, rfl⟩ := List.cons.inj he
        rw [Posting.id, if_pos rfl]
        exact congrArg (fun n => some (Stored.mk n s.slot s.entry)) hp.symm
      | cons q newer =>
        obtain ⟨rfl, rfl⟩ := List.cons.inj he
        rw [if_neg fun e => hn p List.mem_cons_self e.symm]
        exact ih.mpr ⟨newer, c, older, rfl, hp, fun x hx => hn x (List.mem_cons_of_mem _ hx)⟩

/-- An entry stands under the number it was stored under, and nowhere else. -/
theorem standing_unique {j : Nat} (hs : (standing ps).get? id = some s)
    (ht : (standing ps).get? j = some t) (h : s.place = t.place) : id = j ∧ s = t := by
  obtain ⟨newer, c, older, rfl, hp, -⟩ := get?_standing_iff.mp hs
  obtain ⟨newer', c', older', he, hp', -⟩ := get?_standing_iff.mp ht
  have hlen : (Posting.store c s.slot id s.entry :: older).length =
      (Posting.store c' t.slot j t.entry :: older').length := by simp [← hp, ← hp', h]
  obtain ⟨-, he⟩ := List.append_inj' he hlen
  simp only [List.cons.injEq, Posting.store.injEq] at he
  obtain ⟨⟨-, hslot, hid, hentry⟩, -⟩ := he
  refine ⟨hid, ?_⟩
  cases s
  cases t
  simp_all

theorem place_lt (h : (standing ps).get? id = some s) : s.place < ps.length := by
  obtain ⟨newer, c, older, rfl, hp, -⟩ := get?_standing_iff.mp h
  simp only [hp, List.length_append, List.length_cons]
  omega

/-! ## Which entries were removed -/

theorem mem_removed_iff : (s, m) ∈ removed p ps ↔ (standing ps).get? p.id = some s ∧ p.manner = m := by
  simp only [removed, Option.mem_toList, Option.map_eq_some_iff, Prod.mk.injEq]
  exact ⟨fun ⟨a, ha, he, hm⟩ => ⟨he ▸ ha, hm⟩, fun ⟨ha, hm⟩ => ⟨s, ha, rfl, hm⟩⟩

/-- **Which entries were removed, and how**: those with a later posting under their number, by the
first that came. -/
theorem mem_removals_iff : (s, m) ∈ removals ps ↔
    ∃ newest p newer c older,
      ps = newest ++ p :: newer ++ .store c s.slot p.id s.entry :: older ∧
        s.place = older.length ∧ p.manner = m ∧ ∀ q ∈ newer, q.id ≠ p.id := by
  induction ps with
  | nil => simp [removals]
  | cons a ps ih =>
    rw [removals, List.mem_append, ih, mem_removed_iff, get?_standing_iff]
    constructor
    · rintro (⟨newest, p, newer, c, older, rfl, h⟩ | ⟨⟨newer, c, older, rfl, hp, hn⟩, hm⟩)
      · exact ⟨a :: newest, p, newer, c, older, rfl, h⟩
      · exact ⟨[], a, newer, c, older, rfl, hp, hm, hn⟩
    · rintro ⟨newest, p, newer, c, older, he, hp, hm, hn⟩
      cases newest with
      | nil =>
        obtain ⟨rfl, rfl⟩ := List.cons.inj he
        exact .inr ⟨⟨newer, c, older, rfl, hp, hn⟩, hm⟩
      | cons b newest =>
        obtain ⟨rfl, rfl⟩ := List.cons.inj he
        exact .inl ⟨newest, p, newer, c, older, rfl, hp, hm, hn⟩

/-- What has been removed stands no more. -/
theorem not_standing_of_removed (h : (s, m) ∈ removals ps) (ht : (standing ps).get? id = some t) :
    s.place ≠ t.place := by
  induction ps generalizing id with
  | nil => simp [removals] at h
  | cons p ps ih =>
    rw [get?_standing_cons] at ht
    rw [removals, List.mem_append, mem_removed_iff] at h
    split at ht
    · -- the last posting stored the entry that stands
      have hlt : s.place < ps.length := by
        rcases h with h | ⟨h, -⟩
        · obtain ⟨newest, q, newer, c, older, rfl, hp, -⟩ := mem_removals_iff.mp h
          simp only [hp, List.length_append, List.length_cons]
          omega
        · exact place_lt h
      cases p with
      | store c slot k e =>
        cases ht
        exact Nat.ne_of_lt hlt
      | result => cases ht
    · next hid =>
      rcases h with h | ⟨h, -⟩
      · exact ih h ht
      · exact fun he => hid (standing_unique h ht he).1.symm

/-- **No entry is removed twice.** -/
theorem nodup_removals (ps : List Posting) : ((removals ps).map fun r => r.1.place).Nodup := by
  induction ps with
  | nil => exact List.nodup_nil
  | cons p ps ih =>
    rw [removals, List.map_append]
    refine List.nodup_append.mpr ⟨ih, ?_, fun a ha b hb => ?_⟩
    · cases h : (standing ps).get? p.id <;> simp [removed, h]
    · obtain ⟨⟨s, m⟩, hs, rfl⟩ := List.mem_map.mp ha
      obtain ⟨⟨t, n⟩, ht, rfl⟩ := List.mem_map.mp hb
      exact not_standing_of_removed hs (mem_removed_iff.mp ht).1

/-- What a posting removes stands no more. -/
theorem length_removed (p : Posting) (ps : List Posting) :
    ((standing ps).remove p.id).length + (removed p ps).length = (standing ps).length := by
  unfold removed
  cases h : (standing ps).get? p.id with
  | none => rw [Pending.remove_of_get?_none h]; rfl
  | some s => exact Pending.length_remove (distinct_standing ps) h

/-- **Each entry stands or was removed.** -/
theorem length_stores (ps : List Posting) :
    ps.countP Posting.isStore = (removals ps).length + (standing ps).length := by
  induction ps with
  | nil => rfl
  | cons p ps ih =>
    have hr := length_removed p ps
    rw [List.countP_cons, removals, List.length_append, ih]
    cases p with
    | store c slot id e =>
      simp only [Posting.id] at hr
      simp only [standing, Pending.length_store, Posting.isStore, if_true]
      omega
    | result id d =>
      simp only [Posting.id] at hr
      simp only [standing, Posting.isStore, Bool.false_eq_true, if_false]
      omega

theorem removedAs_cons (m : Manner) (p : Posting) (ps : List Posting) :
    removedAs m (p :: ps) = removedAs m ps ++
      if p.manner = m then ((standing ps).get? p.id).toList else [] := by
  simp only [removedAs, removals, List.filterMap_append, removed]
  cases (standing ps).get? p.id <;> by_cases h : p.manner = m <;> simp [h]

end Sluice.Ledger
