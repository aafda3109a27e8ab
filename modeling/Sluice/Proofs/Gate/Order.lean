import Sluice.Proofs.Gate.Moves
import Sluice.Proofs.Schedule
/-!
# The order of a line

The calls of a gate in use may move in any order, and anything may be done to the gate meanwhile.
`Later` is what lies between two gates of such a run: calls only go on, and those who still stand in
line stand there as they did.

* `Onward.later`: what every run keeps.
* `Onward.served_in_order`: a slot is granted to nobody before those ahead of it.
* `Onward.slot_of_cancelled`: once its token is cancelled a call gets no slot.
* `passed_of_cancelled`, `Guarded.passed_of_abandon`: a slot granted in vain is passed on.
-/
namespace Sluice
open scoped List

namespace Call

/-- How far a call has come. -/
def stage : Call → Nat
  | fresh => 0
  | queued => 1
  | slot _ | cancelled | abandoned => 2

/-- Whether a call may come from one state to the other. -/
def Leads (c d : Call) : Prop := c = d ∨ c.stage < d.stage

theorem Leads.trans {c d e : Call} (h : c.Leads d) (h' : d.Leads e) : c.Leads e := by
  rcases h with rfl | h
  · exact h'
  · rcases h' with rfl | h'
    · exact .inr h
    · exact .inr (Nat.lt_trans h h')

/-- A call that has ended stays as it is. -/
theorem Leads.eq {c d : Call} (h : c.Leads d) (hc : 2 ≤ c.stage) : d = c := by
  rcases h with rfl | h
  · rfl
  · have : d.stage ≤ 2 := by cases d <;> simp [stage]
    omega

theorem stage_queued {c : Call} (h : c.stage = 1) : c = queued := by
  cases c <;> simp only [stage] at h <;> first | rfl | omega

end Call

namespace Window

theorem mem_line {w : Window} {i : Nat} : i ∈ w.line ↔ i ∈ w.granted ∨ i ∈ w.waiting :=
  List.mem_append

theorem granted_subset {w : Window} {i : Nat} (h : i ∈ w.granted) : i ∈ w.line :=
  mem_line.mpr (.inl h)

/-- Whether `i` stands in line before `j`. -/
def Ahead (w : Window) (i j : Nat) : Prop := [i, j] <+ w.line

theorem Ahead.left {w : Window} {i j : Nat} (h : w.Ahead i j) : i ∈ w.line := h.subset (by simp)

theorem Ahead.right {w : Window} {i j : Nat} (h : w.Ahead i j) : j ∈ w.line := h.subset (by simp)

/-- Others may leave the line. -/
theorem Ahead.erase {w : Window} {i j a : Nat} (h : w.Ahead i j) (hi : i ≠ a) (hj : j ≠ a) :
    [i, j] <+ w.line.erase a := by
  have := List.Sublist.erase a h
  rwa [List.erase_of_not_mem (by simp [hi.symm, hj.symm])] at this

/-- Slots are granted along the line. -/
theorem Ahead.granted {w : Window} {i j : Nat} (h : w.Ahead i j) (hn : w.line.Nodup)
    (hj : j ∈ w.granted) : [i, j] <+ w.granted := by
  obtain ⟨l, r, e, hl, hr⟩ := List.sublist_append_iff.mp h
  have hw : j ∉ r := fun hm => (List.nodup_append.mp hn).2.2 j hj j (hr.subset hm) rfl
  match l with
  | [] =>
    rw [List.nil_append] at e
    simp [← e] at hw
  | [_] =>
    simp only [List.cons_append, List.nil_append, List.cons.injEq] at e
    simp [← e.2] at hw
  | _ :: _ :: l =>
    simp only [List.cons_append, List.cons.injEq] at e
    obtain ⟨rfl, rfl, e⟩ := e
    rw [(List.append_eq_nil_iff.mp e.symm).1] at hl
    exact hl

/-- Leaving the line lets the others keep their slots. -/
theorem granted_leave {w : Window} {i j : Nat} (h : j ∈ w.granted) (hj : j ≠ i) :
    j ∈ (w.leave i).2.granted := by
  unfold leave
  split
  · unfold pass
    split
    · exact (List.mem_erase_of_ne hj).mpr h
    · exact List.mem_append_left _ ((List.mem_erase_of_ne hj).mpr h)
  · exact h

theorem granted_release {w : Window} {j : Nat} (h : j ∈ w.granted) : j ∈ w.release.2.granted := by
  unfold release
  split
  · exact h
  · unfold pass
    split
    · exact h
    · exact List.mem_append_left _ h

end Window

namespace Gate
variable {n i j t : Nat} {g h k : Gate}

/-- What lies between two gates of a run. -/
structure Later (g h : Gate) : Prop where
  calls : ∀ {i t : Nat} {c : Call}, g.calls[i]? = some (t, c) →
    ∃ d, h.calls[i]? = some (t, d) ∧ c.Leads d
  cancelled : ∀ {t}, g.isCancelled t = true → h.isCancelled t = true
  slots : g.slots.length ≤ h.slots.length
  /-- Who still stands in line stands there in the same order. -/
  order : ∀ {i j}, g.window.Ahead i j → i ∈ h.window.line → j ∈ h.window.line →
    h.window.Ahead i j
  granted : ∀ {i}, i ∈ g.window.granted → i ∈ h.window.line → i ∈ h.window.granted

theorem Later.refl (g : Gate) : g.Later g :=
  ⟨fun hc => ⟨_, hc, .inl rfl⟩, id, Nat.le_refl _, fun ho _ _ => ho, fun hi _ => hi⟩

/-- Nobody comes back into the line. -/
theorem Later.between (h1 : g.Later h) (h2 : h.Later k) (hg : g.Guarded n) (hh : h.Guarded n)
    (hk : k.Guarded n) (hi : i ∈ g.window.line) (hi' : i ∈ k.window.line) : i ∈ h.window.line := by
  obtain ⟨t, hc⟩ := (hg.line i).mp hi
  obtain ⟨t', hc'⟩ := (hk.line i).mp hi'
  obtain ⟨d, hd, hl⟩ := h1.calls hc
  obtain ⟨e, he, hl'⟩ := h2.calls hd
  rw [hc'] at he
  cases he
  have hq : d.stage = 1 := by
    rcases hl with rfl | hl
    · rfl
    · rcases hl' with rfl | hl'
      · rfl
      · simp only [Call.stage] at hl hl' ⊢
        omega
  rw [Call.stage_queued hq] at hd
  exact (hh.line i).mpr ⟨_, hd⟩

theorem Later.trans (h1 : g.Later h) (h2 : h.Later k) (hg : g.Guarded n) (hh : h.Guarded n)
    (hk : k.Guarded n) : g.Later k where
  calls hc := by
    obtain ⟨d, hd, hl⟩ := h1.calls hc
    obtain ⟨e, he, hl'⟩ := h2.calls hd
    exact ⟨e, he, hl.trans hl'⟩
  cancelled ht := h2.cancelled (h1.cancelled ht)
  slots := Nat.le_trans h1.slots h2.slots
  order ho hi hj := by
    have hi' := h1.between h2 hg hh hk ho.left hi
    have hj' := h1.between h2 hg hh hk ho.right hj
    exact h2.order (h1.order ho hi' hj') hi hj
  granted hi hl :=
    h2.granted (h1.granted hi (h1.between h2 hg hh hk (Window.granted_subset hi) hl)) hl

/-- Who stood in line stands there still, or has ended. -/
theorem Later.ended (hl : g.Later h) (hg : g.Guarded n) (hh : h.Guarded n)
    (hi : i ∈ g.window.line) (hn : i ∉ h.window.line) :
    ∃ t c, h.calls[i]? = some (t, c) ∧ 2 ≤ c.stage := by
  obtain ⟨t, hc⟩ := (hg.line i).mp hi
  obtain ⟨d, hd, hs⟩ := hl.calls hc
  refine ⟨t, d, hd, ?_⟩
  rcases hs with rfl | hs
  · exact absurd ((hh.line i).mpr ⟨t, hd⟩) hn
  · exact hs

/-- A call that stood in line has asked for its slot. -/
theorem Later.not_fresh (hl : g.Later h) (hg : g.Guarded n) (hi : i ∈ g.window.line) :
    h.calls[i]? ≠ some (t, .fresh) := by
  intro hf
  obtain ⟨s, hq⟩ := (hg.line i).mp hi
  obtain ⟨d, hd, hc⟩ := hl.calls hq
  cases hf.symm.trans hd
  rcases hc with hc | hc
  · cases hc
  · simp [Call.stage] at hc

/-! ## What one step keeps -/

theorem calls_later {c : Call} (hc : g.calls[i]? = some (t, c)) {d : Call} (hl : c.Leads d)
    {j s : Nat} {e : Call} (hj : g.calls[j]? = some (s, e)) :
    ∃ f, (g.setCall i d).calls[j]? = some (s, f) ∧ e.Leads f := by
  rw [calls_setCall]
  by_cases hij : i = j
  · subst hij
    rw [hc] at hj
    cases hj
    exact ⟨d, by simp [hc], hl⟩
  · exact ⟨e, by rw [if_neg hij]; exact hj, .inl rfl⟩

/-- A call goes on and stays out of the line, or leaves it. -/
theorem later_depart (hg : g.Guarded n) {c : Call} (hc : g.calls[i]? = some (t, .queued))
    (hq : 2 ≤ c.stage) : g.Later (g.depart i c) := by
  have hh : (g.depart i c).Guarded n := hg.depart hc (by rintro rfl; simp [Call.stage] at hq)
  have hi : i ∉ (g.depart i c).window.line :=
    hh.not_mem_line (c := c) (t := t) (by rw [depart_eq]; simp [calls_setCall, hc])
      (by rintro rfl; simp [Call.stage] at hq)
  rw [depart_eq] at *
  refine ⟨calls_later hc (.inr (Nat.lt_of_succ_le hq)), id, Nat.le_refl _, ?_, ?_⟩
  · intro a b ho ha hb
    show [a, b] <+ (g.window.leave i).2.line
    rw [Window.line_leave]
    exact ho.erase (fun e => hi (e ▸ ha)) fun e => hi (e ▸ hb)
  · intro a ha hl
    exact Window.granted_leave ha fun e => hi (e ▸ hl)

theorem later_of_move (hg : g.Guarded n) (hm : g.Move i h) : g.Later h := by
  have hh := hg.move hm
  cases hm with
  | refuse hc ht =>
    exact ⟨calls_later hc (.inr (by simp [Call.stage])), id, Nat.le_refl _, fun ho _ _ => ho,
      fun hi _ => hi⟩
  | enter hc ht hf =>
    refine ⟨calls_later hc (.inr (by simp [Call.stage])), id, ?_, fun ho _ _ => ho, fun hi _ => hi⟩
    simp [finish, setCall]
  | join hc ht hf =>
    refine ⟨calls_later hc (.inr (by simp [Call.stage])), id, Nat.le_refl _, fun ho _ _ => ?_,
      fun hi _ => hi⟩
    show _ <+ g.window.granted ++ (g.window.waiting ++ [i])
    rw [← List.append_assoc]
    exact ho.trans (List.sublist_append_left _ _)
  | leave hc ht => exact later_depart hg hc (Nat.le_refl 2)
  | take hc ht hm =>
    have hi : i ∉ (g.window.redeemed i).line :=
      hh.not_mem_line (c := .slot g.slots.length) (t := _)
        (by unfold finish; rw [calls_setCall]; simp [hc]; rfl) nofun
    refine ⟨calls_later hc (.inr (by simp [Call.stage])), id, ?_, fun {a b} ho ha hb => ?_,
      fun {a} ha hl => ?_⟩
    · simp [finish, setCall]
    · have ha' : a ≠ i := fun e => hi (e ▸ ha)
      have hb' : b ≠ i := fun e => hi (e ▸ hb)
      have := ho.erase ha' hb'
      rwa [Window.line, List.erase_append_left _ hm] at this
    · have ha' : a ≠ i := fun e => hi (e ▸ hl)
      exact (List.mem_erase_of_ne ha').mpr ha

theorem later_of_outside (hg : g.Guarded n) (ho : g.Outside h) : g.Later h := by
  cases ho with
  | nothing => exact .refl g
  | start token =>
    refine ⟨fun {i t c} hc => ⟨c, ?_, .inl rfl⟩, id, Nat.le_refl _, fun ho _ _ => ho, fun hi _ => hi⟩
    exact (List.getElem?_append_left (List.getElem?_eq_some_iff.mp hc).1).trans hc
  | spare hf =>
    exact ⟨fun hc => ⟨_, hc, .inl rfl⟩, id, by simp, fun ho _ _ => ho, fun hi _ => hi⟩
  | release hh =>
    rw [release_eq]
    refine ⟨fun hc => ⟨_, hc, .inl rfl⟩, id, by simp [handOver], fun ho _ _ => ?_, fun hi _ => ?_⟩
    · show _ <+ g.window.release.2.line
      rw [Window.line_release]
      exact ho
    · exact Window.granted_release hi
  | cancel token =>
    obtain ⟨_, _, e, hc⟩ := g.cancel_eq token
    rw [e]
    refine ⟨fun hc => ⟨_, hc, .inl rfl⟩, fun ht => ?_, Nat.le_refl _, fun ho _ _ => ho,
      fun hi _ => hi⟩
    unfold isCancelled at *
    rw [List.contains_iff_mem] at *
    exact hc _ ht
  | forget hc =>
    exact ⟨calls_later hc (.inr (by simp [Call.stage])), id, Nat.le_refl _, fun ho _ _ => ho,
      fun hi _ => hi⟩
  | drop hc => exact later_depart hg hc (Nat.le_refl 2)

/-! ## Runs in any order -/

/-- The gates that one gate can come to, the calls moving in any order, woken or not. -/
inductive Onward (g : Gate) : Gate → Prop where
  | refl : Onward g g
  | event {h : Gate} (e : Event) : Onward g h → Onward g (h.apply e)
  | move {h k : Gate} (i : Nat) : Onward g h → h.step i = some k → Onward g k
  /-- A woken call has its turn. -/
  | next {h k : Gate} {i : Nat} : Onward g h → h.next = some (i, k) → Onward g k

theorem Reachable.onward (hr : Reachable n g) : (ofCapacity n).Onward g := by
  induction hr with
  | start => exact .refl
  | event e _ ih => exact ih.event e
  | move i _ hs ih => exact ih.move i hs

theorem next_cases (hn : g.next = some (i, h)) :
    g.line = i :: h.line ∧ h = { g with line := h.line } := by
  unfold next at hn
  split at hn
  · cases hn
  · next e =>
    cases hn
    exact ⟨e, rfl⟩

theorem later_of_next (hn : g.next = some (i, h)) : g.Later h := by
  rw [(next_cases hn).2]
  exact ⟨fun hc => ⟨_, hc, .inl rfl⟩, id, Nat.le_refl _, fun ho _ _ => ho, fun hi _ => hi⟩

theorem Guarded.next (hg : g.Guarded n) (hn : g.next = some (i, h)) : h.Guarded n := by
  rw [(next_cases hn).2]
  exact hg.of_same rfl rfl rfl

theorem Onward.guarded (hr : g.Onward h) (hg : g.Guarded n) : h.Guarded n := by
  induction hr with
  | refl => exact hg
  | event e _ ih => exact ih.outside (outside_of_apply _ e)
  | move i _ hs ih => exact ih.move (move_of_step hs)
  | next _ hn ih => exact ih.next hn

theorem Onward.later (hr : g.Onward h) (hg : g.Guarded n) : g.Later h := by
  induction hr with
  | refl => exact .refl g
  | @event h e hr ih =>
    have hh := hr.guarded hg
    have ho := outside_of_apply h e
    exact ih.trans (later_of_outside hh ho) hg hh (hh.outside ho)
  | move i hr hs ih =>
    have hh := hr.guarded hg
    have hm := move_of_step hs
    exact ih.trans (later_of_move hh hm) hg hh (hh.move hm)
  | next hr hn ih =>
    have hh := hr.guarded hg
    exact ih.trans (later_of_next hn) hg hh (hh.next hn)

/-! ## Who gets a slot -/

/-- Only who runs ends, and gets a slot only if it finds one free or takes what it was granted. -/
theorem end_of_move (hm : g.Move i h) {c : Call} (hs : h.calls[j]? = some (t, c))
    (hc : 2 ≤ c.stage) : g.calls[j]? = some (t, c) ∨ i = j ∧
      (c = .cancelled ∧ g.isCancelled t = true ∨
        c = .slot g.slots.length ∧ h.slots = g.slots ++ [true] ∧ g.isCancelled t = false ∧
          (g.calls[j]? = some (t, .fresh) ∨ j ∈ g.window.granted)) := by
  cases hm with
  | refuse hi ht =>
    rcases calls_cases hs with h | ⟨rfl, e, _, h⟩
    · exact .inl h
    · cases hi.symm.trans h
      exact .inr ⟨rfl, .inl ⟨e, ht⟩⟩
  | enter hi ht =>
    rcases calls_cases hs with h | ⟨rfl, e, _, h⟩
    · exact .inl h
    · cases hi.symm.trans h
      exact .inr ⟨rfl, .inr ⟨e, rfl, ht, .inl hi⟩⟩
  | join =>
    refine .inl ((calls_cases hs).resolve_right ?_)
    rintro ⟨-, rfl, -⟩
    simp [Call.stage] at hc
  | leave hi ht =>
    rw [depart_eq] at hs
    rcases calls_cases hs with h | ⟨rfl, e, _, h⟩
    · exact .inl h
    · cases hi.symm.trans h
      exact .inr ⟨rfl, .inl ⟨e, ht⟩⟩
  | take hi ht hm =>
    rcases calls_cases hs with h | ⟨rfl, e, _, h⟩
    · exact .inl h
    · cases hi.symm.trans h
      exact .inr ⟨rfl, .inr ⟨e, rfl, ht, .inr hm⟩⟩

/-- From outside a call can only be dropped. -/
theorem end_of_outside (ho : g.Outside h) {c : Call} (hs : h.calls[j]? = some (t, c))
    (hc : 2 ≤ c.stage) : g.calls[j]? = some (t, c) ∨ c = .abandoned := by
  cases ho with
  | nothing => exact .inl hs
  | start =>
    rcases concat_cases hs with hs | ⟨-, e⟩
    · exact .inl hs
    · cases e
      simp [Call.stage] at hc
  | spare => exact .inl hs
  | release =>
    rw [release_eq] at hs
    exact .inl hs
  | cancel token =>
    obtain ⟨_, _, e, -⟩ := g.cancel_eq token
    rw [e] at hs
    exact .inl hs
  | forget => exact (calls_cases hs).imp_right fun h => h.2.1
  | drop =>
    rw [depart_eq] at hs
    exact (calls_cases hs).imp_right fun h => h.2.1

/-- What a call that has ended says: the slots are numbered as they were handed out, and who gave up
had its token cancelled. -/
structure Answered (g : Gate) : Prop where
  slot : ∀ {i t b : Nat}, g.calls[i]? = some (t, .slot b) → b < g.slots.length
  cancelled : ∀ {i t : Nat}, g.calls[i]? = some (t, .cancelled) → g.isCancelled t = true

theorem Onward.answered (hr : g.Onward h) (hg : g.Guarded n) (ha : g.Answered) : h.Answered := by
  induction hr with
  | refl => exact ha
  | @event h e hr ih =>
    have ho := outside_of_apply h e
    have hl := later_of_outside (hr.guarded hg) ho
    refine ⟨fun {i t b} hs => ?_, fun {i t} hs => ?_⟩
    · have := (end_of_outside ho hs (Nat.le_refl 2)).resolve_right nofun
      exact Nat.lt_of_lt_of_le (ih.slot this) hl.slots
    · have := (end_of_outside ho hs (Nat.le_refl 2)).resolve_right nofun
      exact hl.cancelled (ih.cancelled this)
  | move i hr hs ih =>
    have hm := move_of_step hs
    have hl := later_of_move (hr.guarded hg) hm
    refine ⟨fun {i t b} hs => ?_, fun {i t} hs => ?_⟩
    · rcases end_of_move hm hs (Nat.le_refl 2) with hs | ⟨-, ⟨e, -⟩ | ⟨e, hk, -⟩⟩
      · exact Nat.lt_of_lt_of_le (ih.slot hs) hl.slots
      · cases e
      · cases e
        simp [hk]
    · rcases end_of_move hm hs (Nat.le_refl 2) with hs | ⟨-, ⟨-, ht⟩ | ⟨e, -⟩⟩
      · exact hl.cancelled (ih.cancelled hs)
      · exact hl.cancelled ht
      · cases e
  | next _ hn ih =>
    rw [(next_cases hn).2]
    exact ⟨ih.slot, ih.cancelled⟩

/-- A slot has been granted to the call, which has taken it or not run since. -/
def Served (g : Gate) (i : Nat) : Prop :=
  i ∈ g.window.granted ∨ ∃ t b, g.calls[i]? = some (t, .slot b)

/-- The call has ended without a slot. -/
def Gone (g : Gate) (i : Nat) : Prop :=
  ∃ t c, g.calls[i]? = some (t, c) ∧ (c = .cancelled ∨ c = .abandoned)

/-- Who has left the line has ended with a slot or without. -/
theorem Later.served_or_gone (hl : g.Later h) (hg : g.Guarded n) (hh : h.Guarded n)
    (hi : i ∈ g.window.line) (hn : i ∉ h.window.line) : h.Served i ∨ h.Gone i := by
  obtain ⟨t, c, hc, hs⟩ := hl.ended hg hh hi hn
  cases c with
  | fresh => simp [Call.stage] at hs
  | queued => simp [Call.stage] at hs
  | slot b => exact .inl (.inr ⟨t, b, hc⟩)
  | cancelled => exact .inr ⟨t, _, hc, .inl rfl⟩
  | abandoned => exact .inr ⟨t, _, hc, .inr rfl⟩

theorem Later.served (hl : g.Later h) (hg : g.Guarded n) (hh : h.Guarded n) (hi : g.Served i) :
    h.Served i ∨ h.Gone i := by
  rcases hi with hi | ⟨t, b, hc⟩
  · by_cases hn : i ∈ h.window.line
    · exact .inl (.inl (hl.granted hi hn))
    · exact hl.served_or_gone hg hh (Window.granted_subset hi) hn
  · obtain ⟨d, hd, hs⟩ := hl.calls hc
    rw [hs.eq (Nat.le_refl 2)] at hd
    exact .inl (.inr ⟨t, b, hd⟩)

theorem Later.gone (hl : g.Later h) (hi : g.Gone i) : h.Gone i := by
  obtain ⟨t, c, hc, hq⟩ := hi
  obtain ⟨d, hd, hs⟩ := hl.calls hc
  rw [hs.eq (by rcases hq with rfl | rfl <;> exact Nat.le_refl 2)] at hd
  exact ⟨t, c, hd, hq⟩

/-- A step keeps that nobody has been served before those ahead, if it gives a slot only to who has
been granted one or has not asked yet. -/
theorem served_step (hg : g.Guarded n) (hh : h.Guarded n) (hk : k.Guarded n) (h1 : g.Later h)
    (h2 : h.Later k) (ha : g.window.Ahead i j) (ih : h.Served j → h.Served i ∨ h.Gone i)
    (hs : ∀ t b, k.calls[j]? = some (t, .slot b) → h.Served j ∨ h.calls[j]? = some (t, .fresh)) :
    k.Served j → k.Served i ∨ k.Gone i := by
  intro hj
  by_cases hb : h.Served j
  · rcases ih hb with hi | hi
    · exact h2.served hh hk hi
    · exact .inr (h2.gone hi)
  have hl := h1.trans h2 hg hh hk
  rcases hj with hj | ⟨t, b, hj⟩
  · by_cases hi : i ∈ k.window.line
    · have ha' := hl.order ha hi (Window.granted_subset hj)
      exact .inl (.inl ((ha'.granted hk.window.nodup hj).subset (by simp)))
    · exact hl.served_or_gone hg hk ha.left hi
  · exact absurd ((hs t b hj).resolve_left hb) (h1.not_fresh hg ha.right)

/-- **Slots are granted in the order of the line**: whatever is done to the gate and in whatever
order the calls run, nobody is granted a slot before those ahead of it have been granted one or have
ended. -/
theorem Onward.served_in_order (hr : g.Onward h) (hg : g.Guarded n) (ha : g.window.Ahead i j) :
    h.Served j → h.Served i ∨ h.Gone i := by
  induction hr with
  | refl =>
    rintro (hj | ⟨t, b, hj⟩)
    · exact .inl (.inl ((ha.granted hg.window.nodup hj).subset (by simp)))
    · exact absurd ha.right (hg.not_mem_line hj nofun)
  | @event h e hr ih =>
    have hh := hr.guarded hg
    have ho := outside_of_apply h e
    exact served_step hg hh (hh.outside ho) (hr.later hg) (later_of_outside hh ho) ha ih
      fun t b hs => .inl (.inr ⟨t, b,
        (end_of_outside ho hs (Nat.le_refl 2)).resolve_right nofun⟩)
  | move i hr hs ih =>
    have hh := hr.guarded hg
    have hm := move_of_step hs
    refine served_step hg hh (hh.move hm) (hr.later hg) (later_of_move hh hm) ha ih fun t b hs => ?_
    rcases end_of_move hm hs (Nat.le_refl 2) with hs | ⟨-, ⟨e, -⟩ | ⟨-, -, -, hf | hj⟩⟩
    · exact .inl (.inr ⟨t, b, hs⟩)
    · cases e
    · exact .inr hf
    · exact .inl (.inl hj)
  | next hr hn ih =>
    have hh := hr.guarded hg
    refine served_step hg hh (hh.next hn) (hr.later hg) (later_of_next hn) ha ih fun t b hs => ?_
    rw [(next_cases hn).2] at hs
    exact .inl (.inr ⟨t, b, hs⟩)

/-- **Once its token is cancelled a call gets no slot.** -/
theorem Onward.slot_of_cancelled (hr : g.Onward h) (hg : g.Guarded n)
    (ht : g.isCancelled t = true) {b : Nat} (hs : h.calls[i]? = some (t, .slot b)) :
    g.calls[i]? = some (t, .slot b) := by
  induction hr with
  | refl => exact hs
  | @event h e _ ih =>
    exact ih ((end_of_outside (outside_of_apply h e) hs (Nat.le_refl 2)).resolve_right nofun)
  | move _ hr hm ih =>
    rcases end_of_move (move_of_step hm) hs (Nat.le_refl 2) with hs | ⟨-, ⟨e, -⟩ | ⟨-, -, hf, -⟩⟩
    · exact ih hs
    · cases e
    · rw [(hr.later hg).cancelled ht] at hf
      cases hf
  | next _ hn ih =>
    rw [(next_cases hn).2] at hs
    exact ih hs

/-! ## Slots granted in vain -/

/-- Call `i`, which was granted a slot, has ended as `c`; the slot has been granted to the first that
waits, who is woken, or is free again. -/
def Passed (g : Gate) (i : Nat) (c : Call) (h : Gate) : Prop :=
  h.calls = g.calls.modify i (fun p => (p.1, c)) ∧ h.slots = g.slots ∧
  h.window.held = g.window.held ∧ h.window.waiting = g.window.waiting.tail ∧
  match g.window.waiting.head? with
  | none => h.window.granted = g.window.granted.erase i ∧ h.window.free = g.window.free + 1
  | some k => h.window.granted = g.window.granted.erase i ++ [k] ∧ k ∈ h.line ∧
      h.window.free = g.window.free

theorem passed_of_depart (hm : i ∈ g.window.granted) (c : Call) : g.Passed i c (g.depart i c) := by
  rw [depart_eq]
  unfold Window.leave
  rw [if_pos hm]
  unfold Window.pass
  cases hw : g.window.waiting with
  | nil => exact ⟨rfl, rfl, by simp, by simp [hw], by simp [hw]⟩
  | cons k rest => exact ⟨rfl, rfl, by simp, by simp [hw], by simp [hw, wokenBy, Schedule.mem_wake_iff]⟩

/-- A call that was granted a slot can always run, and passes the slot on if its token has been
cancelled. -/
theorem passed_of_cancelled (hm : i ∈ g.window.granted)
    (hc : g.calls[i]? = some (t, .queued)) (ht : g.isCancelled t = true) :
    ∃ h, g.step i = some h ∧ g.Passed i .cancelled h :=
  ⟨g.depart i .cancelled, by simp [step, hc, ht], passed_of_depart hm _⟩

theorem Guarded.passed_of_abandon (hg : g.Guarded n) (hm : i ∈ g.window.granted) :
    g.Passed i .abandoned (g.apply (.abandon i)) := by
  obtain ⟨t, hc⟩ := (hg.line i).mp (Window.granted_subset hm)
  have e : g.apply (.abandon i) = g.depart i .abandoned := by
    show g.abandon i = _
    unfold abandon
    rw [hc]
  rw [e]
  exact passed_of_depart hm _

end Gate
end Sluice
