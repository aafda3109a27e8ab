import Sluice.Gate
import Sluice.Proofs.Lists
import Sluice.Proofs.Window
/-!
# What can happen to a gate

`Move` lists what a call can do when it runs, and `Outside` what can be done to a gate from outside;
`move_of_step` and `outside_of_apply` say that there is nothing else. `Guarded` is what all of it
keeps: the slots are accounted for, and the line of the window is made of the calls that stand in it.

* `Guarded.move`, `Guarded.outside`: no slot is lost or used twice.
-/
namespace Sluice

namespace Window

/-- The window after a free slot was taken. -/
def taken (w : Window) : Window := { w with free := w.free - 1, held := w.held + 1 }

/-- The window after `who` has taken the slot that was granted to it. -/
def redeemed (w : Window) (who : Nat) : Window :=
  { w with granted := w.granted.erase who, held := w.held + 1 }

/-- The window after `who` has joined the line. -/
def joined (w : Window) (who : Nat) : Window := { w with waiting := w.waiting ++ [who] }

end Window

namespace Gate

/-- What call `i` can do when it runs. -/
inductive Move (g : Gate) (i : Nat) : Gate → Prop where
  /-- Its token was cancelled before it has asked for a slot. -/
  | refuse {t} : g.calls[i]? = some (t, .fresh) → g.isCancelled t = true →
      Move g i (g.setCall i .cancelled)
  /-- It finds a free slot. -/
  | enter {t} : g.calls[i]? = some (t, .fresh) → g.isCancelled t = false → 0 < g.window.free →
      Move g i (g.finish i g.window.taken)
  /-- It joins the line. -/
  | join {t} : g.calls[i]? = some (t, .fresh) → g.isCancelled t = false → g.window.free = 0 →
      Move g i ({ g with window := g.window.joined i }.setCall i .queued)
  /-- Its token was cancelled while it stood in line. -/
  | leave {t} : g.calls[i]? = some (t, .queued) → g.isCancelled t = true →
      Move g i (g.depart i .cancelled)
  /-- It takes the slot that it was granted. -/
  | take {t} : g.calls[i]? = some (t, .queued) → g.isCancelled t = false → i ∈ g.window.granted →
      Move g i (g.finish i (g.window.redeemed i))

/-- What can be done to a gate from outside. -/
inductive Outside (g : Gate) : Gate → Prop where
  | nothing : Outside g g
  | start (token : Nat) : Outside g (g.start token)
  /-- A free slot is taken without waiting. -/
  | spare : 0 < g.window.free →
      Outside g { g with window := g.window.taken, slots := g.slots ++ [true] }
  | release {slot} : g.has slot = true → Outside g (g.release slot)
  | cancel (token : Nat) : Outside g (g.cancel token)
  /-- A call is dropped before it has asked for a slot. -/
  | forget {i t} : g.calls[i]? = some (t, .fresh) → Outside g (g.setCall i .abandoned)
  /-- A call is dropped while it stands in line. -/
  | drop {i t} : g.calls[i]? = some (t, .queued) → Outside g (g.depart i .abandoned)

variable {n i j : Nat} {g h : Gate}

theorem move_of_step (hs : g.step i = some h) : g.Move i h := by
  unfold step at hs
  split at hs
  · next t hc =>
    split at hs
    · next ht =>
      cases hs
      exact .refuse hc ht
    · next ht =>
      rw [Bool.not_eq_true] at ht
      rcases Window.acquire_cases g.window i with ⟨hf, e⟩ | ⟨hf, e⟩ <;> rw [e] at hs <;> cases hs
      · exact .enter hc ht hf
      · exact .join hc ht hf
  · next t hc =>
    split at hs
    · next ht =>
      cases hs
      exact .leave hc ht
    · next ht =>
      rw [Bool.not_eq_true] at ht
      obtain ⟨w, hw, rfl⟩ := Option.map_eq_some_iff.mp hs
      obtain ⟨hm, rfl⟩ := Window.take_cases hw
      exact .take hc ht hm
  · cases hs

theorem outside_of_apply (g : Gate) (e : Event) : g.Outside (g.apply e) := by
  cases e with
  | start token => exact .start token
  | tryAcquire =>
    unfold apply tryAcquire Window.tryAcquire
    by_cases hf : g.window.free = 0
    · simp only [hf, if_true]
      exact .nothing
    · simp only [hf, if_false]
      exact .spare (Nat.pos_of_ne_zero hf)
  | release slot =>
    show g.Outside (if g.has slot then g.release slot else g)
    split
    · next hh => exact .release hh
    · exact .nothing
  | cancel token => exact .cancel token
  | abandon i =>
    show g.Outside (g.abandon i)
    unfold abandon
    split
    · next hc => exact .forget hc
    · next hc => exact .drop hc
    · exact .nothing

/-! ## What the operations leave as it is -/

theorem calls_setCall (g : Gate) (i j : Nat) (c : Call) :
    (g.setCall i c).calls[j]? =
      if i = j then g.calls[j]?.map fun p => (p.1, c) else g.calls[j]? := by
  unfold setCall
  rw [List.getElem?_modify]
  by_cases hj : i = j <;> simp [hj]

theorem call_setCall {t : Nat} {c : Call} (hc : g.calls[i]? = some (t, c)) (d : Call) :
    (g.setCall i d).calls[i]? = some (t, d) := by
  rw [calls_setCall, if_pos rfl, hc]
  rfl

theorem calls_cases {t : Nat} {c d : Call} (h : (g.setCall i c).calls[j]? = some (t, d)) :
    g.calls[j]? = some (t, d) ∨ i = j ∧ d = c ∧ ∃ e, g.calls[j]? = some (t, e) := by
  rcases modify_cases h with h | ⟨rfl, ⟨s, e⟩, he, hd⟩
  · exact .inl h
  · cases hd
    exact .inr ⟨rfl, rfl, e, he⟩

/-- The tasks that have been woken after a slot was passed on. -/
def wokenBy (line : List Nat) (who : Option Nat) : List Nat :=
  match who with
  | none => line
  | some i => Schedule.wake i line

theorem wakeGranted_eq (g : Gate) (who : Option Nat) :
    g.wakeGranted who = { g with line := wokenBy g.line who } := by
  cases who <;> rfl

theorem depart_eq (g : Gate) (i : Nat) (c : Call) :
    g.depart i c = { g.setCall i c with
      window := (g.window.leave i).2
      line := wokenBy g.line (g.window.leave i).1 } := by
  unfold depart
  simp only [wakeGranted_eq]
  rfl

theorem release_eq (g : Gate) (slot : Nat) :
    g.release slot = { g.handOver slot with
      window := g.window.release.2
      line := wokenBy g.line g.window.release.1 } := by
  unfold release giveBack
  simp only [wakeGranted_eq]
  rfl

/-- Cancelling a token changes which tokens are cancelled, and wakes calls. -/
theorem cancel_eq (g : Gate) (token : Nat) : ∃ cancelled line,
    g.cancel token = { g with cancelled := cancelled, line := line } ∧
      ∀ t, t ∈ g.cancelled → t ∈ cancelled := by
  unfold cancel
  split
  · exact ⟨_, _, rfl, fun _ ht => ht⟩
  · exact ⟨_, _, rfl, fun _ ht => List.mem_cons_of_mem _ ht⟩

/-! ## What a gate in use keeps -/

/-- A gate over a window that was made for `n` slots: the slots in use are those that callers have,
and the calls in line are those that have asked for a slot and have neither one nor an end. -/
structure Guarded (n : Nat) (g : Gate) : Prop where
  window : g.window.Ordered n
  line : ∀ i, i ∈ g.window.line ↔ ∃ t, g.calls[i]? = some (t, .queued)
  held : g.window.held = g.slots.count true

theorem guarded_ofCapacity (n : Nat) : (ofCapacity n).Guarded n :=
  ⟨Window.ordered_ofCapacity n, by simp [ofCapacity, Window.ofCapacity, Window.line], rfl⟩

/-- Only the window, the calls and the slots that callers have decide. -/
theorem Guarded.of_same (hg : g.Guarded n) (hw : h.window = g.window) (hc : h.calls = g.calls)
    (hs : h.slots = g.slots) : h.Guarded n :=
  ⟨hw ▸ hg.window, by rw [hw, hc]; exact hg.line, by rw [hw, hs]; exact hg.held⟩

theorem Guarded.not_mem_line (hg : g.Guarded n) {t : Nat} {c : Call}
    (hc : g.calls[i]? = some (t, c)) (hq : c ≠ .queued) : i ∉ g.window.line := by
  rw [hg.line, hc]
  rintro ⟨t', he⟩
  cases he
  exact hq rfl

/-- Who stands in line, after call `i` has gone over to another state and the window to `w`. -/
theorem Guarded.line_setCall (hg : g.Guarded n) {t : Nat} {c d : Call}
    (hc : g.calls[i]? = some (t, c)) (w : Window) (hi : i ∈ w.line ↔ d = .queued)
    (ho : ∀ j, j ≠ i → (j ∈ w.line ↔ j ∈ g.window.line)) (j : Nat) :
    j ∈ w.line ↔ ∃ t, (g.setCall i d).calls[j]? = some (t, .queued) := by
  rw [calls_setCall]
  by_cases hj : i = j
  · subst hj
    simp [hi, hc]
  · rw [if_neg hj, ho j fun e => hj e.symm]
    exact hg.line j

/-- A call ends before it has asked for a slot. -/
theorem Guarded.quit (hg : g.Guarded n) {t : Nat} {c : Call} (hc : g.calls[i]? = some (t, .fresh))
    (hq : c ≠ .queued) : (g.setCall i c).Guarded n :=
  ⟨hg.window, hg.line_setCall hc g.window
    ⟨fun hm => absurd hm (hg.not_mem_line hc nofun), fun e => absurd e hq⟩ fun _ _ => Iff.rfl,
    hg.held⟩

/-- A call ends while it stands in line. -/
theorem Guarded.depart (hg : g.Guarded n) {t : Nat} {c : Call}
    (hc : g.calls[i]? = some (t, .queued)) (hq : c ≠ .queued) : (g.depart i c).Guarded n := by
  rw [depart_eq]
  refine ⟨hg.window.leave i, hg.line_setCall hc (g.window.leave i).2 ?_ fun j hj => ?_, ?_⟩
  · simp [Window.mem_line_leave hg.window, hq]
  · simp [Window.mem_line_leave hg.window, hj]
  · exact (Window.held_leave g.window i).trans hg.held

theorem Guarded.move (hg : g.Guarded n) (hm : g.Move i h) : h.Guarded n := by
  cases hm with
  | refuse hc => exact hg.quit hc nofun
  | enter hc _ hf =>
    have hn := hg.not_mem_line hc nofun
    have ho := hg.window.acquire hn
    rcases Window.acquire_cases g.window i with ⟨-, e⟩ | ⟨hz, -⟩
    · rw [e] at ho
      refine ⟨ho, hg.line_setCall hc g.window.taken ?_ fun _ _ => Iff.rfl, ?_⟩
      · exact ⟨fun hm => absurd hm hn, nofun⟩
      · show g.window.held + 1 = (g.slots ++ [true]).count true
        simp [hg.held]
    · omega
  | join hc _ hf =>
    have ho := hg.window.acquire (hg.not_mem_line hc nofun)
    rcases Window.acquire_cases g.window i with ⟨hz, -⟩ | ⟨-, e⟩
    · omega
    · rw [e] at ho
      refine ⟨ho, hg.line_setCall hc (g.window.joined i) ?_ fun j hj => ?_, hg.held⟩
      · simp [Window.joined, Window.mem_line_join]
      · simp [Window.joined, Window.mem_line_join, hj]
  | leave hc => exact hg.depart hc nofun
  | take hc _ hgr =>
    have ht : g.window.take i = some (g.window.redeemed i) := by
      unfold Window.take
      rw [if_pos hgr]
      rfl
    refine ⟨hg.window.take ht, hg.line_setCall hc (g.window.redeemed i) ?_ fun j hj => ?_, ?_⟩
    · simp [Window.mem_line_take hg.window ht]
    · simp [Window.mem_line_take hg.window ht, hj]
    · show g.window.held + 1 = (g.slots ++ [true]).count true
      simp [hg.held]

theorem Guarded.outside (hg : g.Guarded n) (ho : g.Outside h) : h.Guarded n := by
  cases ho with
  | nothing => exact hg
  | start token =>
    refine ⟨hg.window, fun i => (hg.line i).trans ?_, hg.held⟩
    show _ ↔ ∃ t, (g.calls ++ [(token, .fresh)])[i]? = some (t, .queued)
    refine ⟨fun ⟨t, hc⟩ => ⟨t, ?_⟩, fun ⟨t, hc⟩ => ⟨t, ?_⟩⟩
    · rw [List.getElem?_append_left (List.getElem?_eq_some_iff.mp hc).1]
      exact hc
    · rcases concat_cases hc with hc | ⟨-, e⟩
      · exact hc
      · cases e
  | spare hf =>
    have ht := hg.window.total
    refine ⟨⟨hg.window.capacity, ?_, ?_, hg.window.nodup⟩, hg.line, ?_⟩
    · unfold Window.total at ht
      show g.window.held + 1 + g.window.granted.length + (g.window.free - 1) = max 1 n
      omega
    · exact .inr (hg.window.calm.resolve_left (by omega))
    · show g.window.held + 1 = (g.slots ++ [true]).count true
      simp [hg.held]
  | @release slot hh =>
    rw [release_eq]
    refine ⟨hg.window.release, fun i => ?_, ?_⟩
    · show i ∈ g.window.release.2.line ↔ _
      rw [Window.line_release]
      exact hg.line i
    · obtain ⟨hlt, hv⟩ : ∃ hlt : slot < g.slots.length, g.slots[slot] = true := by
        unfold has at hh
        rw [List.getD_eq_getElem?_getD] at hh
        cases hs : g.slots[slot]? with
        | none => simp [hs] at hh
        | some b =>
          obtain ⟨hlt, hb⟩ := List.getElem?_eq_some_iff.mp hs
          exact ⟨hlt, hb.trans (by simpa [hs] using hh)⟩
      show g.window.release.2.held = (g.slots.set slot false).count true
      rw [Window.held_release, hg.held, List.count_set hlt]
      simp [hv]
  | cancel token =>
    obtain ⟨_, _, e, -⟩ := g.cancel_eq token
    rw [e]
    exact hg.of_same rfl rfl rfl
  | forget hc => exact hg.quit hc nofun
  | drop hc => exact hg.depart hc nofun

end Gate
end Sluice
