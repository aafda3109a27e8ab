import Mathlib.Data.List.Induction
import Mathlib.Data.List.Nodup
import Sluice.Proofs.Gate.Order
import Sluice.Proofs.Ledger.Postings
/-!
# The slots of entries

An entry that stands has taken over the slot of a caller. To the gate, a slot in use is one like the
other: `Gate.withSlots` is the gate as it would be if callers had all slots in use, and what `Guarded`
says of it is kept by whatever happens to the gate of a ledger.

* `Shared`: the slots in use are those that callers have and those of the entries that stand.
* `Shared.handOver`, `Shared.giveBack`: a slot goes over to an entry, and comes back from one.
* `Lent`: a gate with such slots, which whatever callers do keeps.
* `Lent.held`, `Lent.mem_of_standing`, `Lent.not_mem_of_dead`: which slots are in use.
-/
namespace Sluice

namespace Ledger

/-- How the slots that callers have change by what callers do, and the slots in use with them. -/
inductive Alike (own used : List Bool) : List Bool → List Bool → Prop where
  | same : Alike own used own used
  /-- A slot is handed out. -/
  | more : Alike own used (own ++ [true]) (used ++ [true])
  /-- A caller gives its slot back. -/
  | less {slot : Nat} : own.getD slot false = true →
      Alike own used (own.set slot false) (used.set slot false)

/-- The slots in use are those that callers have and those of the entries that stand, each of which
has one of its own. -/
structure Shared (own used : List Bool) (entries : Pending Stored) : Prop where
  length : used.length = own.length
  count : used.count true = own.count true + entries.length
  used : ∀ b, used.getD b false = true ↔ own.getD b false = true ∨ ∃ x ∈ entries, x.2.slot = b
  apart : ∀ x ∈ entries, own.getD x.2.slot false = false
  nodup : (entries.map fun x => x.2.slot).Nodup

variable {own used own' used' : List Bool} {entries : Pending Stored} {a b : Nat}

theorem lt_of_getD (h : own.getD a false = true) : a < own.length := by
  refine Nat.lt_of_not_le fun hn => ?_
  rw [List.getD_eq_getElem?_getD, List.getElem?_eq_none hn] at h
  cases h

theorem getD_set_false (own : List Bool) (a b : Nat) :
    (own.set a false).getD b false = if b = a then false else own.getD b false := by
  simp only [List.getD_eq_getElem?_getD, List.getElem?_set]
  by_cases h : a = b
  · subst h
    by_cases hl : a < own.length <;> simp [hl]
  · rw [if_neg h, if_neg fun e => h e.symm]

theorem getD_concat_true (own : List Bool) (b : Nat) :
    (own ++ [true]).getD b false = true ↔ own.getD b false = true ∨ b = own.length := by
  simp only [List.getD_eq_getElem?_getD, List.getElem?_append]
  by_cases h : b < own.length
  · simp [h, Nat.ne_of_lt h]
  · rw [if_neg h, List.getElem?_singleton, List.getElem?_eq_none (Nat.le_of_not_lt h)]
    by_cases hb : b = own.length
    · simp [hb]
    · simp [hb, show ¬ b - own.length = 0 by omega]

theorem count_set_false (h : own.getD a false = true) :
    (own.set a false).count true + 1 = own.count true := by
  have hlt := lt_of_getD h
  have hv : own[a] = true := by simpa [List.getD_eq_getElem?_getD, hlt] using h
  have hpos : 0 < own.count true := List.count_pos_iff.mpr (hv ▸ List.getElem_mem hlt)
  rw [List.count_set hlt]
  simp [hv]
  omega

theorem Shared.start : Shared [] [] [] := ⟨rfl, rfl, by simp, by simp, List.nodup_nil⟩

/-- Whatever callers do leaves the entries with their slots. -/
theorem Shared.alike (h : Shared own used entries) (ha : Alike own used own' used') :
    Shared own' used' entries := by
  cases ha with
  | same => exact h
  | more =>
    refine ⟨by simp [h.length], by simp [h.count]; omega, fun b => ?_, fun x hx => ?_, h.nodup⟩
    · rw [getD_concat_true, getD_concat_true, h.used, h.length, or_right_comm]
    · have hn := h.apart x hx
      have hlt := lt_of_getD ((h.used x.2.slot).mpr (.inr ⟨x, hx, rfl⟩))
      rw [← Bool.not_eq_true, getD_concat_true, hn]
      rw [h.length] at hlt
      simp [Nat.ne_of_lt hlt]
  | @less slot ho =>
    have hc := count_set_false ho
    have hu := count_set_false ((h.used slot).mpr (.inl ho))
    have hcount := h.count
    refine ⟨by simp [h.length], by omega, fun b => ?_, fun x hx => ?_, h.nodup⟩
    · rw [getD_set_false, getD_set_false]
      by_cases hb : b = slot
      · subst hb
        simp only [if_true, Bool.false_eq_true, false_or, false_iff]
        rintro ⟨x, hx, rfl⟩
        rw [h.apart x hx] at ho
        cases ho
      · rw [if_neg hb, if_neg hb]
        exact h.used b
    · rw [getD_set_false, h.apart x hx, ite_self]

/-- A caller's slot goes over to an entry under a number where none stands. -/
theorem Shared.handOver {s : Stored} (h : Shared own used entries)
    (ho : own.getD s.slot false = true) (id : Nat) :
    Shared (own.set s.slot false) used (entries ++ [(id, s)]) := by
  have hc := count_set_false ho
  have hcount := h.count
  have hne : ∀ x ∈ entries, x.2.slot ≠ s.slot := fun x hx he => by
    have hn := h.apart x hx
    rw [he, ho] at hn
    cases hn
  refine ⟨by simp [h.length], by simp; omega, fun b => ?_, fun x hx => ?_, ?_⟩
  · simp only [getD_set_false, h.used, List.mem_append, List.mem_singleton, or_and_right, exists_or,
      exists_eq_left]
    by_cases hb : b = s.slot
    · rw [hb, if_pos rfl]
      exact ⟨fun _ => .inr (.inr rfl), fun _ => .inl ho⟩
    · rw [if_neg hb, or_iff_left fun e : s.slot = b => hb e.symm]
  · rw [getD_set_false]
    split
    · rfl
    · next hx' =>
      rcases List.mem_append.mp hx with hx | hx
      · exact h.apart x hx
      · rw [List.mem_singleton.mp hx] at hx'
        exact absurd rfl hx'
  · rw [List.map_append]
    refine List.nodup_append.mpr ⟨h.nodup, by simp, fun a ha b hb e => ?_⟩
    obtain ⟨x, hx, rfl⟩ := List.mem_map.mp ha
    rw [List.map_singleton, List.mem_singleton] at hb
    exact hne x hx (e.trans hb)

/-- An entry's slot comes back. -/
theorem Shared.giveBack {id : Nat} {s : Stored} (h : Shared own used entries)
    (hd : entries.Distinct) (hs : entries.get? id = some s) :
    Shared own (used.set s.slot false) (entries.remove id) := by
  have hmem := Pending.mem_of_get? hs
  have hu : used.getD s.slot false = true := (h.used s.slot).mpr (.inr ⟨_, hmem, rfl⟩)
  have hc := count_set_false hu
  have hl := Pending.length_remove hd hs
  have hcount := h.count
  -- of the entries that stand, only the one that goes has this slot
  have hiff : ∀ x ∈ entries, x ∈ entries.remove id ↔ x.2.slot ≠ s.slot := by
    intro x hx
    have hm : x ∈ entries.remove id ↔ x.1 ≠ id := by simp [Pending.remove, hx]
    rw [hm]
    refine not_congr ⟨fun he => ?_, fun he => ?_⟩
    · have := hd.get? hx
      rw [he, hs] at this
      rw [Option.some.inj this]
    · exact congrArg Prod.fst (List.inj_on_of_nodup_map h.nodup hx hmem he)
  refine ⟨by simp [h.length], by omega, fun b => ?_, fun x hx => h.apart x
    (Pending.mem_of_mem_remove hx), List.Nodup.sublist (List.filter_sublist.map _) h.nodup⟩
  rw [getD_set_false]
  by_cases hb : b = s.slot
  · subst hb
    rw [if_pos rfl, h.apart _ hmem]
    simp only [Bool.false_eq_true, false_or, false_iff]
    rintro ⟨x, hx, he⟩
    exact (hiff x (Pending.mem_of_mem_remove hx)).mp hx he
  · rw [if_neg hb, h.used]
    refine or_congr_right ⟨?_, ?_⟩
    · rintro ⟨x, hx, he⟩
      exact ⟨x, (hiff x hx).mpr (he ▸ hb), he⟩
    · rintro ⟨x, hx, he⟩
      exact ⟨x, Pending.mem_of_mem_remove hx, he⟩

/-- The slots of entries that were removed are in use no more. -/
def Spent (used : List Bool) (dead : List Stored) : Prop :=
  ∀ s ∈ dead, s.slot < used.length ∧ used.getD s.slot false = false

/-- A slot that has come back is never handed out again: the next one has a new number. -/
theorem Spent.alike {dead : List Stored} (h : Spent used dead) (ha : Alike own used own' used') :
    Spent used' dead := by
  intro s hs
  obtain ⟨hlt, hv⟩ := h s hs
  cases ha with
  | same => exact ⟨hlt, hv⟩
  | more =>
    refine ⟨by rw [List.length_append]; omega, ?_⟩
    rw [← Bool.not_eq_true, getD_concat_true, hv]
    simp [Nat.ne_of_lt hlt]
  | less =>
    refine ⟨by rwa [List.length_set], ?_⟩
    rw [getD_set_false, hv, ite_self]

theorem Spent.giveBack {dead : List Stored} {s : Stored} (h : Spent used dead)
    (hs : used.getD s.slot false = true) : Spent (used.set s.slot false) (dead ++ [s]) := by
  intro t ht
  rw [List.length_set, getD_set_false]
  rcases List.mem_append.mp ht with ht | ht
  · obtain ⟨hlt, hv⟩ := h t ht
    exact ⟨hlt, by rw [hv, ite_self]⟩
  · rw [List.mem_singleton.mp ht]
    exact ⟨lt_of_getD hs, if_pos rfl⟩

/-- The slots in use: those that callers have, and those of the entries that stand. -/
def slotsInUse (own : List Bool) (entries : Pending Stored) : List Nat :=
  (List.range own.length).filter fun b => own.getD b false || entries.any fun x => x.2.slot == b

theorem count_eq_length (used : List Bool) : used.count true =
    ((List.range used.length).filter fun b => used.getD b false).length := by
  induction used using List.reverseRecOn with
  | nil => rfl
  | append_singleton used b ih =>
    have hsame : (List.range used.length).filter (fun c => (used ++ [b]).getD c false) =
        (List.range used.length).filter fun c => used.getD c false :=
      List.filter_congr fun c hc => by
        simp [List.getD_eq_getElem?_getD, List.getElem?_append_left (List.mem_range.mp hc)]
    rw [List.count_append, ih, List.length_append, List.length_singleton, List.range_succ,
      List.filter_append, List.length_append, hsame]
    cases b <;> simp

theorem Shared.slotsInUse_eq (h : Shared own used entries) : slotsInUse own entries =
    (List.range used.length).filter fun b => used.getD b false := by
  unfold slotsInUse
  rw [h.length]
  refine List.filter_congr fun b _ => Bool.eq_iff_iff.mpr ?_
  simp only [Bool.or_eq_true, List.any_eq_true, beq_iff_eq, h.used]

theorem Shared.mem_slotsInUse (h : Shared own used entries) :
    b ∈ slotsInUse own entries ↔ used.getD b false = true := by
  rw [h.slotsInUse_eq, List.mem_filter, List.mem_range]
  exact ⟨And.right, fun hb => ⟨lt_of_getD hb, hb⟩⟩

end Ledger

namespace Gate
open Ledger
variable {n i : Nat} {g h : Gate} {used : List Bool}

/-- The gate as it would be if callers had these slots. -/
def withSlots (g : Gate) (used : List Bool) : Gate := { g with slots := used }

/-- What a call does to the slots. -/
theorem guarded_of_move (hg : (g.withSlots used).Guarded n) (hl : used.length = g.slots.length)
    (hm : g.Move i h) : ∃ used', Alike g.slots used h.slots used' ∧ (h.withSlots used').Guarded n := by
  have hfinish : ∀ w, (g.withSlots used).finish i w = (g.finish i w).withSlots (used ++ [true]) := by
    intro w
    unfold finish withSlots setCall
    simp only [hl]
  cases hm with
  | refuse hc ht => exact ⟨used, .same, hg.move (.refuse hc ht)⟩
  | enter hc ht hf =>
    have := hg.move (.enter hc ht hf)
    rw [hfinish] at this
    exact ⟨_, .more, this⟩
  | join hc ht hf => exact ⟨used, .same, hg.move (.join hc ht hf)⟩
  | leave hc ht =>
    have := hg.move (.leave hc ht)
    rw [depart_eq] at this ⊢
    exact ⟨used, .same, this⟩
  | take hc ht hm =>
    have := hg.move (.take hc ht hm)
    rw [hfinish] at this
    exact ⟨_, .more, this⟩

/-- What is done from outside to the slots. -/
theorem guarded_of_outside (hg : (g.withSlots used).Guarded n) (hs : ∀ b, g.has b = true →
    (g.withSlots used).has b = true) (ho : g.Outside h) :
    ∃ used', Alike g.slots used h.slots used' ∧ (h.withSlots used').Guarded n := by
  cases ho with
  | nothing => exact ⟨used, .same, hg⟩
  | start token => exact ⟨used, .same, hg.outside (.start token)⟩
  | spare hf => exact ⟨_, .more, hg.outside (.spare hf)⟩
  | @release slot hh =>
    have := hg.outside (.release (hs slot hh))
    rw [release_eq] at this ⊢
    exact ⟨_, .less hh, this⟩
  | cancel token =>
    obtain ⟨_, _, e, -⟩ := g.cancel_eq token
    rw [e]
    exact ⟨used, .same, hg.of_same rfl rfl rfl⟩
  | forget hc => exact ⟨used, .same, hg.outside (.forget hc)⟩
  | drop hc =>
    have := hg.outside (.drop hc)
    rw [depart_eq] at this ⊢
    exact ⟨used, .same, this⟩

theorem giveBack_eq (g : Gate) : g.giveBack =
    { g with window := g.window.release.2, line := wokenBy g.line g.window.release.1 } := by
  unfold giveBack
  simp only [wakeGranted_eq]

/-- An entry's slot comes back to the window. -/
theorem guarded_giveBack (hg : (g.withSlots used).Guarded n) {slot : Nat}
    (hs : used.getD slot false = true) : (g.giveBack.withSlots (used.set slot false)).Guarded n := by
  have := hg.outside (.release hs)
  rw [release_eq] at this
  rw [giveBack_eq]
  exact this

/-! ## What a gate has lent -/

/-- A gate over a window that was made for `n` slots. Entries stand with slots of it, and others
have been removed. -/
def Lent (n : Nat) (g : Gate) (entries : Pending Stored) (dead : List Stored) : Prop :=
  ∃ used, (g.withSlots used).Guarded n ∧ Shared g.slots used entries ∧ Spent used dead

variable {entries : Pending Stored} {dead : List Stored} {s : Stored} {id : Nat}

theorem lent_ofCapacity (n : Nat) : (ofCapacity n).Lent n [] [] :=
  ⟨[], guarded_ofCapacity n, .start, nofun⟩

theorem Lent.move (hg : g.Lent n entries dead) (hm : g.Move i h) : h.Lent n entries dead := by
  obtain ⟨used, hg, hs, hd⟩ := hg
  obtain ⟨used', ha, hg'⟩ := guarded_of_move hg hs.length hm
  exact ⟨used', hg', hs.alike ha, hd.alike ha⟩

theorem Lent.outside (hg : g.Lent n entries dead) (ho : g.Outside h) : h.Lent n entries dead := by
  obtain ⟨used, hg, hs, hd⟩ := hg
  obtain ⟨used', ha, hg'⟩ := guarded_of_outside hg (fun b hb => (hs.used b).mpr (.inl hb)) ho
  exact ⟨used', hg', hs.alike ha, hd.alike ha⟩

theorem Lent.next (hg : g.Lent n entries dead) (hn : g.next = some (i, h)) :
    h.Lent n entries dead := by
  obtain ⟨used, hg, hs, hd⟩ := hg
  rw [(next_cases hn).2]
  exact ⟨used, hg.of_same rfl rfl rfl, hs, hd⟩

/-- A caller's slot goes over to an entry under a number where none stands. -/
theorem Lent.handOver (hg : g.Lent n entries dead) (hs : g.has s.slot = true) (id : Nat) :
    (g.handOver s.slot).Lent n (entries ++ [(id, s)]) dead := by
  obtain ⟨used, hg, hu, hd⟩ := hg
  exact ⟨used, hg, hu.handOver hs id, hd⟩

/-- An entry is removed, and its slot comes back. -/
theorem Lent.giveBack (hg : g.Lent n entries dead) (hd : entries.Distinct)
    (hs : entries.get? id = some s) : g.giveBack.Lent n (entries.remove id) (dead ++ [s]) := by
  obtain ⟨used, hg, hu, hsp⟩ := hg
  have hb : used.getD s.slot false = true :=
    (hu.used s.slot).mpr (.inr ⟨_, Pending.mem_of_get? hs, rfl⟩)
  refine ⟨used.set s.slot false, guarded_giveBack hg hb, ?_, hsp.giveBack hb⟩
  rw [giveBack_eq]
  exact hu.giveBack hd hs

theorem giveBack_handOver (g : Gate) (slot : Nat) :
    (g.handOver slot).giveBack = g.giveBack.handOver slot := by
  rw [giveBack_eq, giveBack_eq]
  rfl

theorem Lent.held (hg : g.Lent n entries dead) :
    g.window.held = (slotsInUse g.slots entries).length := by
  obtain ⟨used, hg, hu, -⟩ := hg
  rw [hu.slotsInUse_eq, ← count_eq_length]
  exact hg.held

theorem Lent.total (hg : g.Lent n entries dead) :
    g.window.held + g.window.granted.length + g.window.free = max 1 n := by
  obtain ⟨used, hg, -⟩ := hg
  exact hg.window.total

/-- The slot of an entry that stands is in use. -/
theorem Lent.mem_of_standing (hg : g.Lent n entries dead) (hs : entries.get? id = some s) :
    s.slot ∈ slotsInUse g.slots entries := by
  obtain ⟨used, -, hu, -⟩ := hg
  exact hu.mem_slotsInUse.mpr ((hu.used _).mpr (.inr ⟨_, Pending.mem_of_get? hs, rfl⟩))

/-- The slot of an entry that was removed is not. -/
theorem Lent.not_mem_of_dead (hg : g.Lent n entries dead) (hs : s ∈ dead) :
    s.slot ∉ slotsInUse g.slots entries := by
  obtain ⟨used, -, hu, hd⟩ := hg
  rw [hu.mem_slotsInUse, (hd s hs).2]
  exact Bool.false_ne_true

/-- While an entry stands, not all slots are free. -/
theorem Lent.free_lt (hg : g.Lent n entries dead) (hs : entries.get? id = some s) :
    g.window.free < max 1 n := by
  have hpos := List.length_pos_of_mem (hg.mem_of_standing hs)
  have ht := hg.total
  rw [← hg.held] at hpos
  omega

/-- A slot is given back: one less is in use, and no call has ended for it. -/
theorem held_giveBack (g : Gate) :
    g.giveBack.window.held = g.window.held - 1 ∧ g.giveBack.calls = g.calls ∧
      g.giveBack.slots = g.slots := by
  rw [giveBack_eq]
  exact ⟨Window.held_release _, rfl, rfl⟩

end Gate
end Sluice
