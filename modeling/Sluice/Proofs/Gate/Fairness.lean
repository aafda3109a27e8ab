import Mathlib.Data.List.Basic
import Sluice.Proofs.Gate.Order
/-!
# Calls that run when they are woken

A call runs when it is woken, the first woken first. `Lined` relates the line of those who have been
woken to the line of the window: whoever can move has been woken, and who has been granted a slot
runs in the order of the grants unless its token is cancelled.

* `InTurn.lined`: what every such run keeps, so no wake-up is lost (`Lined.woken`).
* `InTurn.slots_in_order`: slots are taken in the order of the line.
* `Onward.fair`: what the callers of a gate may rely on.
-/
namespace Sluice
open scoped List

namespace Gate
variable {n i j t : Nat} {run : List Nat} {g h k : Gate}

/-- Whether the call's token has not been cancelled. -/
def live (g : Gate) (i : Nat) : Bool :=
  match g.calls[i]? with
  | some (t, _) => !g.isCancelled t
  | none => false

/-- The woken calls of a gate, of which those in `run` run already. -/
structure Lined (run : List Nat) (g : Gate) : Prop where
  nodup : (run ++ g.line).Nodup
  fresh : ∀ {i t}, g.calls[i]? = some (t, .fresh) → i ∈ run ++ g.line
  dead : ∀ {i t}, g.calls[i]? = some (t, .queued) → g.isCancelled t = true → i ∈ run ++ g.line
  /-- Who waits for a slot sleeps. -/
  granted : ∀ {i t}, g.calls[i]? = some (t, .queued) → g.isCancelled t = false → i ∈ g.line →
    i ∈ g.window.granted
  /-- Who was granted a slot runs in the order of the grants. -/
  order : g.window.granted.filter g.live <+ run ++ g.line

theorem lined_ofCapacity (n : Nat) : (ofCapacity n).Lined [] :=
  ⟨List.nodup_nil, nofun, nofun, nofun, List.Sublist.refl []⟩

theorem live_of_queued (hc : g.calls[i]? = some (t, .queued)) : g.live i = !g.isCancelled t := by
  unfold live
  rw [hc]

/-- Nobody who can move sleeps. -/
theorem Lined.woken (hl : g.Lined run) (hs : g.step i ≠ none) : i ∈ run ++ g.line := by
  obtain ⟨h, hstep⟩ := Option.ne_none_iff_exists'.mp hs
  cases move_of_step hstep with
  | refuse hc => exact hl.fresh hc
  | enter hc => exact hl.fresh hc
  | join hc => exact hl.fresh hc
  | leave hc ht => exact hl.dead hc ht
  | take hc ht hm =>
    exact hl.order.subset (List.mem_filter.mpr ⟨hm, by rw [live_of_queued hc, ht]; rfl⟩)

/-! ## What the operations do to the woken calls -/

theorem wake_sublist (i : Nat) (line : List Nat) : line <+ Schedule.wake i line := by
  unfold Schedule.wake
  split
  · exact .refl _
  · exact List.sublist_append_left _ _

theorem wake_of_not_mem {line : List Nat} (h : i ∉ line) : Schedule.wake i line = line ++ [i] := by
  unfold Schedule.wake
  rw [if_neg (by simpa using h)]

theorem nodup_wake {line : List Nat} (hn : (run ++ line).Nodup) (hi : i ∉ run) :
    (run ++ Schedule.wake i line).Nodup := by
  by_cases hm : i ∈ line
  · unfold Schedule.wake
    rwa [if_pos (by simpa using hm)]
  · rw [wake_of_not_mem hm, ← List.append_assoc]
    refine List.nodup_append.mpr ⟨hn, by simp, fun a ha b hb e => ?_⟩
    rw [List.mem_singleton.mp hb] at e
    subst e
    exact (List.mem_append.mp ha).elim hi hm

theorem wakeAll_sublist (ts line : List Nat) : line <+ Schedule.wakeAll ts line := by
  unfold Schedule.wakeAll
  induction ts generalizing line with
  | nil => exact .refl _
  | cons t ts ih => exact (wake_sublist t line).trans (ih _)

theorem nodup_wakeAll {ts line : List Nat} (hn : line.Nodup) :
    (Schedule.wakeAll ts line).Nodup := by
  unfold Schedule.wakeAll
  induction ts generalizing line with
  | nil => exact hn
  | cons t ts ih =>
    have hn : ([] ++ Schedule.wake t line).Nodup := nodup_wake hn List.not_mem_nil
    exact ih hn

/-! ## What one step keeps -/

/-- Only the calls, the tokens, the grants and who has been woken decide. -/
theorem Lined.of_same (hl : g.Lined run) (hc : h.calls = g.calls) (ht : h.cancelled = g.cancelled)
    (hw : h.window.granted = g.window.granted) (hs : h.line = g.line) : h.Lined run := by
  have hv : h.live = g.live := by
    funext i
    unfold live isCancelled
    rw [hc, ht]
  constructor
  · rw [hs]; exact hl.nodup
  · rw [hc, hs]; exact hl.fresh
  · unfold isCancelled; rw [hc, hs, ht]; exact hl.dead
  · unfold isCancelled; rw [hc, hs, ht, hw]; exact hl.granted
  · rw [hw, hv, hs]; exact hl.order

theorem live_setCall (g : Gate) (i : Nat) (c : Call) : (g.setCall i c).live = g.live := by
  funext j
  unfold live
  rw [calls_setCall]
  by_cases hj : i = j
  · subst hj
    cases g.calls[i]? <;> simp [isCancelled, setCall]
  · simp [hj, isCancelled, setCall]

/-- A call ends, and with it what it was granted. -/
theorem Lined.ended (hl : g.Lined run) {c : Call} (hc : 2 ≤ c.stage)
    (hw : h.window.granted = g.window.granted.erase i) (ht : h.cancelled = g.cancelled)
    (hs : h.calls = (g.setCall i c).calls) (hn : h.line = g.line) : h.Lined run := by
  have hv : h.live = g.live := by
    rw [← live_setCall g i c]
    funext j
    unfold live isCancelled
    rw [hs, ht]
    rfl
  have hcalls : ∀ {j t d}, h.calls[j]? = some (t, d) → d.stage < 2 →
      i ≠ j ∧ g.calls[j]? = some (t, d) := by
    intro j t d hd hq
    rw [hs, calls_setCall] at hd
    by_cases hj : i = j
    · rw [if_pos hj] at hd
      obtain ⟨p, -, e⟩ := Option.map_eq_some_iff.mp hd
      cases e
      omega
    · rw [if_neg hj] at hd
      exact ⟨hj, hd⟩
  constructor
  · rw [hn]; exact hl.nodup
  · intro j t hj
    rw [hn]
    exact hl.fresh (hcalls hj (by simp [Call.stage])).2
  · intro j t hj hd
    rw [hn]
    unfold isCancelled at hd
    rw [ht] at hd
    exact hl.dead (hcalls hj (by simp [Call.stage])).2 hd
  · intro j t hj hd hm
    rw [hn] at hm
    unfold isCancelled at hd
    rw [ht] at hd
    obtain ⟨hij, hj⟩ := hcalls hj (by simp [Call.stage])
    rw [hw]
    exact (List.mem_erase_of_ne (Ne.symm hij)).mpr (hl.granted hj hd hm)
  · rw [hw, hv, hn]
    exact (List.erase_sublist.filter _).trans hl.order

/-- A slot comes back: the first that waits is woken to take it. -/
theorem Lined.pass (hl : g.Lined run) (hn : g.window.line.Nodup)
    (hq : ∀ k ∈ g.window.waiting, ∃ t, g.calls[k]? = some (t, .queued))
    (hr : ∀ k ∈ g.window.waiting, k ∉ run) :
    { g with window := g.window.pass.2, line := wokenBy g.line g.window.pass.1 }.Lined run := by
  unfold Window.pass
  cases hw : g.window.waiting with
  | nil => exact hl.of_same rfl rfl rfl rfl
  | cons k rest =>
    have hk : k ∈ g.window.waiting := by simp [hw]
    have hg : k ∉ g.window.granted := fun hm => (List.nodup_append.mp hn).2.2 k hm k hk rfl
    obtain ⟨t, hc⟩ := hq k hk
    have hsub : run ++ g.line <+ run ++ Schedule.wake k g.line :=
      (List.Sublist.refl run).append (wake_sublist k g.line)
    constructor
    · exact nodup_wake hl.nodup (hr k hk)
    · exact fun hj => hsub.subset (hl.fresh hj)
    · exact fun hj hd => hsub.subset (hl.dead hj hd)
    · intro j s hj hd hm
      show j ∈ g.window.granted ++ [k]
      rcases Schedule.mem_wake_iff.mp hm with rfl | hm
      · simp
      · exact List.mem_append_left _ (hl.granted hj hd hm)
    · show (g.window.granted ++ [k]).filter g.live <+ run ++ Schedule.wake k g.line
      rw [List.filter_append]
      by_cases hv : g.live k = true
      · -- a live call that waits sleeps, so it is woken behind all the others
        rw [live_of_queued hc, Bool.not_eq_true'] at hv
        rw [wake_of_not_mem fun hm => hg (hl.granted hc hv hm), ← List.append_assoc]
        exact hl.order.append (List.filter_sublist)
      · rw [List.filter_cons_of_neg hv, List.filter_nil, List.append_nil]
        exact hl.order.trans hsub

/-- A call leaves the line for good. -/
theorem Lined.depart (hl : g.Lined run) (hg : g.Guarded n) {c : Call} (hc : 2 ≤ c.stage)
    (hr : ∀ k ∈ run, k = i) : (g.depart i c).Lined run := by
  rw [depart_eq]
  unfold Window.leave
  by_cases hm : i ∈ g.window.granted
  · rw [if_pos hm]
    have hw : { g.window with granted := g.window.granted.erase i }.line = g.window.line.erase i :=
      (List.erase_append_left _ hm).symm
    have hwait : ∀ k ∈ g.window.waiting, k ≠ i := fun k hk e =>
      (List.nodup_append.mp hg.window.nodup).2.2 i hm k hk e.symm
    refine Lined.pass (g := { g.setCall i c with
      window := { g.window with granted := g.window.granted.erase i } }) ?_ ?_ ?_ ?_
    · exact hl.ended hc rfl rfl rfl rfl
    · rw [hw]
      exact hg.window.nodup.erase i
    · intro k hk
      rw [calls_setCall, if_neg (hwait k hk).symm]
      exact (hg.line k).mp (Window.mem_line.mpr (.inr hk))
    · exact fun k hk h => hwait k hk (hr k h)
  · rw [if_neg hm]
    exact hl.ended hc (List.erase_of_not_mem hm).symm rfl rfl rfl

/-- The call that runs makes its move. -/
theorem Lined.move (hl : g.Lined [i]) (hg : g.Guarded n) (hm : g.Move i h) : h.Lined [i] := by
  cases hm with
  | refuse hc =>
    have hi := fun hm => hg.not_mem_line hc nofun (Window.granted_subset hm)
    exact hl.ended (c := .cancelled) (Nat.le_refl 2) (List.erase_of_not_mem hi).symm rfl rfl rfl
  | enter hc =>
    have hi := fun hm => hg.not_mem_line hc nofun (Window.granted_subset hm)
    exact hl.ended (c := .slot _) (Nat.le_refl 2) (List.erase_of_not_mem hi).symm rfl rfl rfl
  | join hc ht =>
    have hsame : ∀ {j : Nat}, j ≠ i →
        ({ g with window := g.window.joined i }.setCall i .queued).calls[j]? = g.calls[j]? :=
      fun hj => by rw [calls_setCall, if_neg hj.symm]
    have hi : i ∉ g.line := (List.nodup_cons.mp hl.nodup).1
    refine ⟨hl.nodup, fun {j _} hj => ?_, fun {j _} hj hd => ?_, fun {j _} hj hd hm => ?_, ?_⟩
    · by_cases e : j = i
      · exact e ▸ List.mem_cons_self
      · exact hl.fresh ((hsame e).symm.trans hj)
    · by_cases e : j = i
      · exact e ▸ List.mem_cons_self
      · exact hl.dead ((hsame e).symm.trans hj) hd
    · have e : j ≠ i := fun e => hi (e ▸ hm)
      exact hl.granted ((hsame e).symm.trans hj) hd hm
    · rw [live_setCall]
      exact hl.order
  | leave hc => exact hl.depart hg (Nat.le_refl 2) fun k hk => List.mem_singleton.mp hk
  | take hc => exact hl.ended (c := .slot _) (Nat.le_refl 2) rfl rfl rfl rfl

theorem lined_start (hl : g.Lined []) (hg : g.Guarded n) (token : Nat) :
    (g.start token).Lined [] := by
  have hsame : ∀ {j : Nat} {p : Nat × Call}, (g.start token).calls[j]? = some p →
      g.calls[j]? = some p ∨ j = g.calls.length ∧ p = (token, .fresh) := fun hj => concat_cases hj
  refine ⟨nodup_wake hl.nodup List.not_mem_nil, fun hj => Schedule.mem_wake_iff.mpr ?_,
    fun hj hd => Schedule.mem_wake_iff.mpr (.inr ?_), fun {j _} hj hd hm => ?_, ?_⟩
  · rcases hsame hj with hj | ⟨e, -⟩
    · exact .inr (hl.fresh hj)
    · exact .inl e
  · exact hl.dead ((hsame hj).resolve_right nofun) hd
  · have hj := (hsame hj).resolve_right nofun
    refine hl.granted hj hd ((Schedule.mem_wake_iff.mp hm).resolve_left fun e => ?_)
    have := (List.getElem?_eq_some_iff.mp hj).1
    omega
  · have hv : ∀ j ∈ g.window.granted, (g.start token).live j = g.live j := by
      intro j hj
      obtain ⟨s, hc⟩ := (hg.line j).mp (Window.granted_subset hj)
      have hc' : (g.start token).calls[j]? = some (s, .queued) :=
        (List.getElem?_append_left (List.getElem?_eq_some_iff.mp hc).1).trans hc
      rw [live_of_queued hc, live_of_queued hc']
      rfl
    show g.window.granted.filter (g.start token).live <+ _
    rw [List.filter_congr hv]
    exact hl.order.trans (wake_sublist _ _)

theorem lined_cancel (hl : g.Lined []) (hg : g.Guarded n) (token : Nat) :
    (g.cancel token).Lined [] := by
  unfold cancel
  split
  · exact hl
  · have hcan : ∀ t, List.contains (token :: g.cancelled) t = true ↔
        t = token ∨ g.isCancelled t = true := by
      intro t
      unfold isCancelled
      simp
    have hon : ∀ {j}, g.calls[j]? = some (token, .queued) → j ∈ g.queuedOn token := by
      intro j hj
      refine List.mem_filter.mpr ⟨(hg.line j).mpr ⟨_, hj⟩, ?_⟩
      simp [hj]
    refine ⟨nodup_wakeAll hl.nodup, fun hj => Schedule.mem_wakeAll_iff.mpr (.inr (hl.fresh hj)),
      fun {j s} hj hd => Schedule.mem_wakeAll_iff.mpr ?_, fun {j s} hj hd hm => ?_, ?_⟩
    · rcases (hcan s).mp hd with rfl | hd
      · exact .inl (hon hj)
      · exact .inr (hl.dead hj hd)
    · have hs : ¬ (s = token ∨ g.isCancelled s = true) := fun h => by
        rw [← hcan s] at h
        exact absurd (h.symm.trans hd) nofun
      rw [not_or, Bool.not_eq_true] at hs
      refine hl.granted hj hs.2 ((Schedule.mem_wakeAll_iff.mp hm).resolve_left fun hq => ?_)
      have := (List.mem_filter.mp hq).2
      rw [hj] at this
      simp [hs.1] at this
    · refine (List.Sublist.trans ?_ hl.order).trans (wakeAll_sublist _ _)
      refine List.monotone_filter_right _ fun j hj => ?_
      unfold live at *
      cases hc : g.calls[j]? with
      | none => simp [hc] at hj
      | some p =>
        simp only [hc, Bool.not_eq_true', isCancelled] at hj ⊢
        by_contra hn
        rw [Bool.not_eq_false] at hn
        rw [(hcan p.1).mpr (.inr hn)] at hj
        cases hj

/-- Whatever is done from outside is done while no call runs. -/
theorem Lined.apply (hl : g.Lined []) (hg : g.Guarded n) (e : Event) : (g.apply e).Lined [] := by
  cases e with
  | start token => exact lined_start hl hg token
  | tryAcquire =>
    show g.tryAcquire.2.Lined []
    unfold tryAcquire Window.tryAcquire
    split
    · exact hl
    · next hw =>
      split at hw <;> cases hw
      exact hl.of_same rfl rfl rfl rfl
  | release slot =>
    show (if g.has slot then g.release slot else g).Lined []
    split
    · rw [release_eq]
      unfold Window.release
      split
      · exact hl.of_same rfl rfl rfl rfl
      · refine Lined.pass (g := { g.handOver slot with
          window := { g.window with held := g.window.held - 1 } }) ?_ hg.window.nodup ?_ ?_
        · exact hl.of_same rfl rfl rfl rfl
        · exact fun k hk => (hg.line k).mp (Window.mem_line.mpr (.inr hk))
        · exact fun _ _ => List.not_mem_nil
    · exact hl
  | cancel token => exact lined_cancel hl hg token
  | abandon i =>
    show (g.abandon i).Lined []
    unfold abandon
    split
    · next hc =>
      have hi := fun hm => hg.not_mem_line hc nofun (Window.granted_subset hm)
      exact hl.ended (c := .abandoned) (Nat.le_refl 2) (List.erase_of_not_mem hi).symm rfl rfl rfl
    · exact hl.depart hg (Nat.le_refl 2) fun k hk => absurd hk List.not_mem_nil
    · exact hl

/-! ## Runs in turn -/

/-- The gates that one gate can come to if the calls run in the order they were woken, each until it
can make no further move. -/
inductive InTurn (g : Gate) : Gate → Prop where
  | refl : InTurn g g
  | event {h : Gate} (e : Event) : InTurn g h → InTurn g (h.apply e)
  | turn {h k : Gate} {i : Nat} (fuel : Nat) : InTurn g h → h.next = some (i, k) →
      (Schedule.poll (step i) fuel k).step i = none → InTurn g (Schedule.poll (step i) fuel k)

theorem step_of_ended {c : Call} (hc : g.calls[i]? = some (t, c)) (hs : 2 ≤ c.stage) :
    g.step i = none := by
  unfold step
  rw [hc]
  cases c <;> first | rfl | simp [Call.stage] at hs

theorem step_of_waiting (hc : g.calls[i]? = some (t, .queued)) (ht : g.isCancelled t = false)
    (hn : i ∉ g.window.granted) : g.step i = none := by
  unfold step
  rw [hc]
  simp only [ht, Bool.false_eq_true, if_false]
  exact Option.map_eq_none_iff.mpr (if_neg hn)

/-- Who cannot move waits for a slot, or has ended. -/
theorem waiting_of_step (hs : g.step i = none) {c : Call} (hc : g.calls[i]? = some (t, c)) :
    2 ≤ c.stage ∨ c = .queued ∧ g.isCancelled t = false ∧ i ∉ g.window.granted := by
  unfold step at hs
  rw [hc] at hs
  cases c with
  | fresh =>
    simp only at hs
    split at hs
    · cases hs
    · rcases Window.acquire_cases g.window i with ⟨-, e⟩ | ⟨-, e⟩ <;> rw [e] at hs <;> cases hs
  | queued =>
    simp only at hs
    split at hs
    · cases hs
    · next ht =>
      refine .inr ⟨rfl, by simpa using ht, fun hm => ?_⟩
      have := Window.take_isSome hm
      rw [Option.map_eq_none_iff.mp hs] at this
      cases this
  | slot b => exact .inl (Nat.le_refl 2)
  | cancelled => exact .inl (Nat.le_refl 2)
  | abandoned => exact .inl (Nat.le_refl 2)

/-- A call that has made a move has to wait, or has ended. -/
theorem step_of_move (hg : g.Guarded n) (hm : g.Move i h) : h.step i = none := by
  cases hm with
  | refuse hc => exact step_of_ended (call_setCall hc .cancelled) (Nat.le_refl 2)
  | enter hc => exact step_of_ended (call_setCall hc (.slot g.slots.length)) (Nat.le_refl 2)
  | join hc ht =>
    exact step_of_waiting (call_setCall hc .queued) ht fun hm =>
      hg.not_mem_line hc nofun (Window.granted_subset hm)
  | leave hc =>
    rw [depart_eq]
    exact step_of_ended (call_setCall hc .cancelled) (Nat.le_refl 2)
  | take hc => exact step_of_ended (call_setCall hc (.slot g.slots.length)) (Nat.le_refl 2)

/-- A call that runs makes one move, or none. -/
theorem poll_cases (hg : g.Guarded n) {fuel : Nat}
    (hs : (Schedule.poll (step i) fuel g).step i = none) :
    (g.step i = none ∧ Schedule.poll (step i) fuel g = g) ∨
      g.Move i (Schedule.poll (step i) fuel g) := by
  cases fuel with
  | zero => exact .inl ⟨hs, rfl⟩
  | succ fuel =>
    unfold Schedule.poll
    cases hm : g.step i with
    | none => exact .inl ⟨rfl, rfl⟩
    | some h =>
      have hm := move_of_step hm
      have : Schedule.poll (step i) fuel h = h := by
        cases fuel with
        | zero => rfl
        | succ fuel =>
          unfold Schedule.poll
          rw [step_of_move hg hm]
      simp only [this]
      exact .inr hm

/-- The first of the woken calls begins its turn. -/
theorem Lined.next (hl : g.Lined []) (hn : g.next = some (i, h)) : h.Lined [i] := by
  obtain ⟨e, eh⟩ := next_cases hn
  have hline : [i] ++ h.line = [] ++ g.line := e.symm
  have hsame : h.window = g.window ∧ h.calls = g.calls ∧ h.cancelled = g.cancelled := by
    rw [eh]
    exact ⟨rfl, rfl, rfl⟩
  obtain ⟨hw, hc, ht⟩ := hsame
  have hv : h.live = g.live := by
    funext j
    unfold live isCancelled
    rw [hc, ht]
  constructor
  · rw [hline]; exact hl.nodup
  · rw [hline, hc]; exact hl.fresh
  · unfold isCancelled; rw [hline, hc, ht]; exact hl.dead
  · unfold isCancelled
    rw [hc, ht, hw]
    exact fun hq hd hm => hl.granted hq hd (e ▸ List.mem_cons_of_mem _ hm)
  · rw [hline, hw, hv]; exact hl.order

/-- A call that cannot go on ends its turn. -/
theorem Lined.rest (hl : g.Lined [i]) (hg : g.Guarded n) (hs : g.step i = none) : g.Lined [] := by
  have hi : i ∉ g.window.granted.filter g.live := by
    intro hm
    obtain ⟨hm, -⟩ := List.mem_filter.mp hm
    obtain ⟨t, hc⟩ := (hg.line i).mp (Window.granted_subset hm)
    rcases waiting_of_step hs hc with h | ⟨-, -, hn⟩
    · simp [Call.stage] at h
    · exact hn hm
  refine ⟨(List.nodup_cons.mp hl.nodup).2, fun {j t} hc => ?_, fun {j t} hc ht => ?_, hl.granted, ?_⟩
  · refine (List.mem_cons.mp (hl.fresh hc)).resolve_left fun e => ?_
    subst e
    rcases waiting_of_step hs hc with h | ⟨h, -⟩
    · simp [Call.stage] at h
    · cases h
  · refine (List.mem_cons.mp (hl.dead hc ht)).resolve_left fun e => ?_
    subst e
    rcases waiting_of_step hs hc with h | ⟨-, h, -⟩
    · simp [Call.stage] at h
    · rw [ht] at h
      cases h
  · have := hl.order.erase i
    rw [List.erase_of_not_mem hi] at this
    simpa using this

theorem Onward.poll (hr : g.Onward h) (i fuel : Nat) :
    g.Onward (Schedule.poll (step i) fuel h) :=
  Schedule.poll_holds (P := g.Onward) (fun hr hs => hr.move i hs) fuel hr

theorem InTurn.onward (hr : g.InTurn h) : g.Onward h := by
  induction hr with
  | refl => exact .refl
  | event e _ ih => exact ih.event e
  | turn fuel _ hn _ ih => exact (ih.next hn).poll _ fuel

theorem InTurn.lined (hr : g.InTurn h) (hg : g.Guarded n) (hl : g.Lined []) : h.Lined [] := by
  induction hr with
  | refl => exact hl
  | @event h e hr ih => exact ih.apply (hr.onward.guarded hg) e
  | turn fuel hr hn hs ih =>
    have hk := (hr.onward.guarded hg).next hn
    rcases poll_cases hk hs with ⟨-, e⟩ | hm
    · rw [e] at hs ⊢
      exact (ih.next hn).rest hk hs
    · exact ((ih.next hn).move hk hm).rest (hk.move hm) hs

/-! ## Slots in the order of the line -/

/-- The call has its slot, with a number below `b`, or may do without: its token has been cancelled,
or it was dropped. -/
def Done (g : Gate) (i b : Nat) : Prop :=
  ∃ t c, g.calls[i]? = some (t, c) ∧
    ((∃ a, c = .slot a ∧ a < b) ∨ g.isCancelled t = true ∨ c = .abandoned)

theorem Later.done (hl : g.Later h) {b : Nat} (hd : g.Done i b) : h.Done i b := by
  obtain ⟨t, c, hc, hb⟩ := hd
  obtain ⟨d, hd, hs⟩ := hl.calls hc
  refine ⟨t, d, hd, ?_⟩
  rcases hb with ⟨a, rfl, ha⟩ | ht | rfl
  · exact .inl ⟨a, hs.eq (Nat.le_refl 2), ha⟩
  · exact .inr (.inl (hl.cancelled ht))
  · exact .inr (.inr (hs.eq (Nat.le_refl 2)))

/-- Who takes the slot that it was granted does so after those ahead of it. -/
theorem done_of_taken (hg : g.Guarded n) (hh : h.Guarded n) (hl : g.Later h) (hh' : h.Lined [j])
    (hans : h.Answered) (ha : g.window.Ahead i j) (hj : h.calls[j]? = some (t, .queued))
    (hm : j ∈ h.window.granted) (ht : h.isCancelled t = false) : h.Done i h.slots.length := by
  by_cases hi : i ∈ h.window.line
  · obtain ⟨s, hc⟩ := (hh.line i).mp hi
    refine ⟨s, _, hc, .inr (.inl ?_)⟩
    by_contra hs
    rw [Bool.not_eq_true] at hs
    -- both are live and were granted a slot, so `i` runs first; but it is the turn of `j`
    have hij := (hl.order ha hi (Window.granted_subset hm)).granted hh.window.nodup hm
    have hlive : [i, j].filter h.live = [i, j] := by
      simp [live_of_queued hc, live_of_queued hj, hs, ht]
    have hord : [i, j] <+ j :: h.line := by
      have := (hij.filter h.live).trans hh'.order
      rwa [hlive] at this
    have hn := List.nodup_cons.mp hh'.nodup
    cases hord with
    | cons _ hrest => exact hn.1 (hrest.subset (by simp))
    | cons_cons _ hrest => exact hn.1 (hrest.subset (by simp))
  · rcases hl.ended hg hh ha.left hi with ⟨s, c, hc, hs⟩
    refine ⟨s, c, hc, ?_⟩
    cases c with
    | fresh => simp [Call.stage] at hs
    | queued => simp [Call.stage] at hs
    | slot a => exact .inl ⟨a, rfl, hans.slot hc⟩
    | cancelled => exact .inr (.inl (hans.cancelled hc))
    | abandoned => exact .inr (.inr rfl)

/-- **Slots are taken in the order of the line**, if the calls run in the order they were woken: who
gets slot number `b` gets it after those who stood in line ahead of it, unless their token has been
cancelled or they were dropped. -/
theorem InTurn.slots_in_order (hr : g.InTurn h) (hg : g.Guarded n) (hl : g.Lined [])
    (hans : g.Answered) (ha : g.window.Ahead i j) {b : Nat}
    (hj : h.calls[j]? = some (t, .slot b)) : h.Done i b := by
  induction hr generalizing t b with
  | refl => exact absurd ha.right (hg.not_mem_line hj nofun)
  | @event h e hr ih =>
    have ho := outside_of_apply h e
    have hold := (end_of_outside ho hj (Nat.le_refl 2)).resolve_right nofun
    exact (later_of_outside (hr.onward.guarded hg) ho).done (ih hold)
  | @turn h k x fuel hr hn hs ih =>
    have hh := hr.onward.guarded hg
    have hk := hh.next hn
    have hstep := later_of_next hn
    rcases poll_cases hk hs with ⟨-, e⟩ | hm
    · rw [e] at hj ⊢
      rw [(next_cases hn).2] at hj
      exact hstep.done (ih hj)
    · have hlater := later_of_move hk hm
      rcases end_of_move hm hj (Nat.le_refl 2) with hold | ⟨rfl, ⟨e, -⟩ | ⟨e, -, ht, hgr⟩⟩
      · rw [(next_cases hn).2] at hold
        exact hlater.done (hstep.done (ih hold))
      · cases e
      · cases e
        have hgk := hr.onward.next hn
        have hgr' : x ∈ k.window.granted :=
          hgr.resolve_left ((hgk.later hg).not_fresh hg ha.right)
        obtain ⟨s, hq⟩ := (hk.line x).mp (Window.granted_subset hgr')
        obtain ⟨d, hd, -⟩ := hlater.calls hq
        cases hd.symm.trans hj
        exact hlater.done (done_of_taken hg hk (hgk.later hg) ((hr.lined hg hl).next hn)
          (hgk.answered hg hans) ha hq hgr' ht)

/-! ## What callers may rely on -/

/-- At rest whoever stands in line waits, and all slots are in use. -/
theorem Guarded.full_of_waiting (hg : g.Guarded n) (hs : ∀ i, g.step i = none)
    (hc : g.calls[i]? = some (t, .queued)) : g.slots.count true = max 1 n := by
  have hgr : g.window.granted = [] := by
    refine List.eq_nil_iff_forall_not_mem.mpr fun j hj => ?_
    obtain ⟨s, hq⟩ := (hg.line j).mp (Window.granted_subset hj)
    rcases waiting_of_step (hs j) hq with h | ⟨-, -, hn⟩
    · simp [Call.stage] at h
    · exact hn hj
  have hw : i ∈ g.window.waiting := by
    have := Window.mem_line.mp ((hg.line i).mpr ⟨t, hc⟩)
    rw [hgr] at this
    exact this.resolve_left List.not_mem_nil
  have hf : g.window.free = 0 :=
    hg.window.calm.resolve_right fun h => by rw [h] at hw; exact List.not_mem_nil hw
  have := hg.window.total
  unfold Window.total at this
  rw [hgr, hf, hg.held] at this
  simpa using this

/-- Who joins the line stands behind all who stand there. -/
theorem joins_behind (hg : g.Guarded n) (hs : g.step i = some h) (hi : i ∉ g.window.line)
    (hi' : i ∈ h.window.line) : h.window.line = g.window.line ++ [i] := by
  cases move_of_step hs with
  | refuse => exact absurd hi' hi
  | enter => exact absurd hi' hi
  | join => exact (List.append_assoc _ _ _).symm
  | leave hc => exact absurd ((hg.line i).mpr ⟨_, hc⟩) hi
  | take hc => exact absurd ((hg.line i).mpr ⟨_, hc⟩) hi

/-- What the callers of a gate over a window of capacity `n` may rely on. -/
structure Fair (n : Nat) (g : Gate) : Prop where
  /-- The slots that callers have, those granted to calls that have not run since and the free ones
  make up the capacity, which is at least one. -/
  total : g.slots.count true + g.window.granted.length + g.window.free = max 1 n
  /-- The window counts the slots that callers have. -/
  held : g.window.held = g.slots.count true
  capacity : g.window.capacity = max 1 n
  /-- While a slot is free no call waits for one. -/
  calm : 0 < g.window.free → g.window.waiting = []
  /-- At rest a call stands in line only if callers have all slots. -/
  full : (∀ i, g.step i = none) → ∀ i t : Nat, g.calls[i]? = some (t, .queued) →
    g.slots.count true = max 1 n
  /-- The line is made of the calls that have asked for a slot and not ended. -/
  line : ∀ i, i ∈ g.window.line ↔ ∃ t, g.calls[i]? = some (t, .queued)
  nodup : g.window.line.Nodup
  /-- Who asks for a slot and does not find one joins the end of the line. -/
  joins : ∀ i h, g.step i = some h → i ∉ g.window.line → i ∈ h.window.line →
    h.window.line = g.window.line ++ [i]
  /-- Nobody is granted a slot before those ahead of it have been granted one or have ended. -/
  served : ∀ h, g.Onward h → ∀ i j, g.window.Ahead i j → h.Served j → h.Served i ∨ h.Gone i
  /-- A call whose token has been cancelled gets no slot any more. -/
  refused : ∀ h, g.Onward h → ∀ i t b : Nat, g.isCancelled t = true →
    h.calls[i]? = some (t, .slot b) → g.calls[i]? = some (t, .slot b)
  /-- What was granted to such a call goes to the first that waits, or is free again. -/
  cancelled : ∀ i t : Nat, i ∈ g.window.granted → g.calls[i]? = some (t, .queued) →
    g.isCancelled t = true → ∃ h, g.step i = some h ∧ g.Passed i .cancelled h
  /-- So does what was granted to a call that is dropped. -/
  dropped : ∀ i, i ∈ g.window.granted → g.Passed i .abandoned (g.apply (.abandon i))
  /-- If the calls run in the order they were woken, whoever can move has been woken. -/
  woken : (ofCapacity n).InTurn g → ∀ i, g.step i ≠ none → i ∈ g.line
  /-- Then slots are taken in the order of the line, by all whose token is not cancelled and who are
  not dropped. -/
  slots : (ofCapacity n).InTurn g → ∀ h, g.InTurn h → ∀ i j t b : Nat, g.window.Ahead i j →
    h.calls[j]? = some (t, .slot b) → ∃ s c, h.calls[i]? = some (s, c) ∧
      (h.isCancelled s = false → c ≠ .abandoned → ∃ a, c = .slot a ∧ a < b)

/-- **A gate loses no slot, wakes whoever it owes one and serves its line in order**, whatever is done
to it and in whatever order the calls run. -/
theorem Onward.fair (hr : (ofCapacity n).Onward g) : g.Fair n := by
  have h0 := guarded_ofCapacity n
  have hg := hr.guarded h0
  have hans : g.Answered := hr.answered h0 ⟨nofun, nofun⟩
  have htotal := hg.window.total
  unfold Window.total at htotal
  exact {
    total := hg.held ▸ htotal
    held := hg.held
    capacity := hg.window.capacity
    calm := fun hf => hg.window.calm.resolve_left (Nat.ne_of_gt hf)
    full := fun hs _ _ hc => hg.full_of_waiting hs hc
    line := hg.line
    nodup := hg.window.nodup
    joins := fun _ _ hs hi hi' => joins_behind hg hs hi hi'
    served := fun _ ho _ _ ha => ho.served_in_order hg ha
    refused := fun _ ho _ _ _ ht hs => ho.slot_of_cancelled hg ht hs
    cancelled := fun _ _ hm hc ht => passed_of_cancelled hm hc ht
    dropped := fun _ hm => hg.passed_of_abandon hm
    woken := fun hturn _ hs => (hturn.lined h0 (lined_ofCapacity n)).woken hs
    slots := by
      intro hturn h hh i j t b ha hj
      have hl := hturn.lined h0 (lined_ofCapacity n)
      obtain ⟨s, c, hc, hd⟩ := hh.slots_in_order hg hl hans ha hj
      refine ⟨s, c, hc, fun hs hc => ?_⟩
      rcases hd with hd | hd | hd
      · exact hd
      · rw [hs] at hd
        cases hd
      · exact absurd hd hc }

/-- Of a window of one, two calls wait for the slot of a third; the first of them is granted it after
its token was cancelled, and has not run since. -/
theorem Onward.fair_crowded : ∃ g : Gate, (ofCapacity 1).InTurn g ∧ g.window.granted = [1] ∧
    g.window.waiting = [2] ∧ g.isCancelled 1 = true ∧ g.Fair 1 := by
  have fresh := InTurn.refl (g := ofCapacity 1)
  have asked := ((fresh.event (.start 0)).event (.start 1)).event (.start 2)
  have waiting := ((asked.turn 2 rfl rfl).turn 2 rfl rfl).turn 2 rfl rfl
  have granted := (waiting.event (.cancel 1)).event (.release 0)
  exact ⟨_, granted, rfl, rfl, rfl, granted.onward.fair⟩

end Gate
end Sluice
