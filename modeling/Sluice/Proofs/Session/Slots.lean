import Sluice.Proofs.Pending
import Sluice.Proofs.Session.Moves
import Sluice.Proofs.Window
/-!
# Who has the slots of a session

Every slot in use belongs to a message that waits for its result or to a claim that reads, and
whoever stands in the line of the window is a claim that has asked and not been served. `Slots` says
so, and every move of every task keeps it.

* `slots_move`: no move of a session loses a slot or uses one twice.
* `Run.Reachable.slots`: so the slots are accounted for in every run.
-/
namespace Sluice.Session

/-- What claim `i` does, if there is one. -/
def phase? (s : Session) (i : Nat) : Option Claim.Phase := (s.claims[i]?).map Claim.phase

/-- How many claims have a slot and read with it. -/
def readers (s : Session) : Nat := s.claims.countP fun c => c.phase = .reading

theorem phase?_modify (s : Session) (i j : Nat) (f : Claim → Claim) :
    (s.modify i f).phase? j =
      if i = j then (s.claims[j]?).map fun c => (f c).phase else s.phase? j := by
  unfold phase? modify
  rw [List.getElem?_modify]
  by_cases h : i = j <;> cases s.claims[j]? <;> simp [h]

/-- The slots of a session whose window was made for `n`. -/
structure Slots (n : Nat) (s : Session) : Prop where
  window : s.window.Ordered n
  line : ∀ i, i ∈ s.window.line ↔ s.phase? i = some .queued
  held : s.window.held = s.pending.length + s.readers
  distinct : s.pending.Distinct

theorem slots_ofCapacity (n : Nat) : (ofCapacity n).Slots n :=
  ⟨Window.ordered_ofCapacity n, by simp [ofCapacity, Window.ofCapacity, Window.line, phase?], rfl,
    List.nodup_nil⟩

variable {n k i : Nat} {r : Rules} {s s' : Session} {b b' : Books} {c : Claim}

/-! ## Setting one phase -/

theorem mem_line_of_queued (h : s.Slots n) (hc : s.claims[i]? = some c) (hp : c.phase = .queued) :
    i ∈ s.window.line := (h.line i).mpr (by simp [phase?, hc, hp])

theorem not_mem_line (h : s.Slots n) (hc : s.claims[i]? = some c) (hp : c.phase ≠ .queued) :
    i ∉ s.window.line := fun hm => hp (by simpa [phase?, hc] using (h.line i).mp hm)

/-- Who stands in line, after claim `i` has gone over to another phase and the window to `w`. -/
theorem line_setPhase (w : Window) {f : Claim → Claim} (h : s.Slots n)
    (hc : s.claims[i]? = some c) (hi : i ∈ w.line ↔ (f c).phase = .queued)
    (hj : ∀ j, j ≠ i → (j ∈ w.line ↔ j ∈ s.window.line)) (j : Nat) :
    j ∈ w.line ↔ ({ s with window := w }.modify i f).phase? j = some .queued := by
  rw [phase?_modify]
  by_cases e : i = j
  · subst e
    simp [hi, hc]
  · rw [if_neg e, hj j (fun x => e x.symm)]
    exact h.line j

theorem readers_modify (hc : s.claims[i]? = some c) (f : Claim → Claim) :
    (s.modify i f).readers + (if c.phase = .reading then 1 else 0) =
      s.readers + (if (f c).phase = .reading then 1 else 0) := by
  have := countP_modify (fun c => decide (c.phase = .reading)) f s.claims hc
  simp only [decide_eq_true_eq] at this
  exact this

theorem readers_pos (hc : s.claims[i]? = some c) (hp : c.phase = .reading) : 0 < s.readers :=
  List.countP_pos_iff.mpr ⟨c, List.mem_of_getElem? hc, by simp [hp]⟩

/-! ## What keeps the slots in order -/

/-- A claim that has asked for a slot and finds a free one. -/
theorem slots_enter (h : s.Slots n) (hc : s.claims[i]? = some c) (hp : c.phase = .admitting)
    {w : Window} (hw : s.window.acquire i = (true, w)) :
    ({ s with window := w }.setPhase i .reading).Slots n := by
  have hn := not_mem_line h hc (by simp [hp])
  have ho := h.window.acquire hn
  rw [hw] at ho
  rcases Window.acquire_cases s.window i with ⟨-, e⟩ | ⟨-, e⟩ <;> rw [hw] at e
  · cases e
    have hr := readers_modify hc fun c => { c with phase := .reading }
    simp only [hp, reduceCtorEq, if_false, if_true] at hr
    refine ⟨ho, line_setPhase _ h hc ⟨fun hm => absurd hm hn, fun e => by simp at e⟩
      fun j _ => Iff.rfl, ?_, h.distinct⟩
    have := h.held
    show s.window.held + 1 = s.pending.length + (s.modify i _).readers
    omega
  · cases e

/-- A claim that has asked for a slot and finds none. -/
theorem slots_join (h : s.Slots n) (hc : s.claims[i]? = some c) (hp : c.phase = .admitting)
    {w : Window} (hw : s.window.acquire i = (false, w)) :
    ({ s with window := w }.setPhase i .queued).Slots n := by
  have hn := not_mem_line h hc (by simp [hp])
  have ho := h.window.acquire hn
  rw [hw] at ho
  rcases Window.acquire_cases s.window i with ⟨-, e⟩ | ⟨-, e⟩ <;> rw [hw] at e
  · cases e
  · cases e
    have hr := readers_modify hc fun c => { c with phase := .queued }
    simp only [hp, reduceCtorEq, if_false] at hr
    refine ⟨ho, line_setPhase { s.window with waiting := s.window.waiting ++ [i] } h hc ?_
      fun j hj => ?_, ?_, h.distinct⟩
    · simp [Window.mem_line_join]
    · simp [Window.mem_line_join, hj]
    · have := h.held
      show s.window.held = s.pending.length + (s.modify i _).readers
      omega

/-- A claim that takes the slot it was granted. -/
theorem slots_take (h : s.Slots n) (hc : s.claims[i]? = some c) (hp : c.phase = .queued)
    {w : Window} (hw : s.window.take i = some w) :
    ({ s with window := w }.setPhase i .reading).Slots n := by
  have hr := readers_modify hc fun c => { c with phase := .reading }
  simp only [hp, reduceCtorEq, if_false, if_true] at hr
  refine ⟨h.window.take hw, line_setPhase w h hc ?_ fun j hj => ?_, ?_, h.distinct⟩
  · simp [Window.mem_line_take h.window hw]
  · simp [Window.mem_line_take h.window hw, hj]
  · obtain ⟨-, rfl⟩ := Window.take_cases hw
    have := h.held
    show s.window.held + 1 = s.pending.length + (s.modify i _).readers
    omega

/-- A claim that ends before it has asked for a slot. -/
theorem slots_turnBack (h : s.Slots n) (hc : s.claims[i]? = some c) (hp : c.phase = .admitting) :
    (s.finish i none).Slots n := by
  have hr := readers_modify hc fun c => { c with phase := .ended none }
  simp only [hp, reduceCtorEq, if_false] at hr
  have hn := not_mem_line h hc (by simp [hp])
  refine ⟨h.window, line_setPhase s.window h hc ⟨fun hm => absurd hm hn, fun e => by simp at e⟩
    fun j _ => Iff.rfl, ?_, h.distinct⟩
  have := h.held
  show s.window.held = s.pending.length + (s.modify i _).readers
  omega

/-- A claim that ends while it stands in line. -/
theorem slots_leave (h : s.Slots n) (hc : s.claims[i]? = some c) (hp : c.phase = .queued) :
    ({ s with window := (s.window.leave i).2 }.finish i none).Slots n := by
  have hr := readers_modify hc fun c => { c with phase := .ended none }
  simp only [hp, reduceCtorEq, if_false] at hr
  refine ⟨h.window.leave i, line_setPhase (s.window.leave i).2 h hc ?_ fun j hj => ?_, ?_, h.distinct⟩
  · simp [Window.mem_line_leave h.window]
  · simp [Window.mem_line_leave h.window, hj]
  · have := h.held
    show (s.window.leave i).2.held = s.pending.length + (s.modify i _).readers
    rw [Window.held_leave]
    omega

/-- A claim that reads gives its slot back and goes over to a phase without one. -/
theorem slots_yield (h : s.Slots n) (hc : s.claims[i]? = some c) (hp : c.phase = .reading)
    {f : Claim → Claim} (hf : (f c).phase ≠ .reading ∧ (f c).phase ≠ .queued) :
    ((s.modify i f).yielded).Slots n := by
  have hr := readers_modify hc f
  simp only [hp, hf.1, if_false, if_true] at hr
  have hn := not_mem_line h hc (by simp [hp])
  have hl := Window.line_release s.window
  refine ⟨h.window.release, line_setPhase s.window.release.2 h hc ?_ fun j _ => by rw [hl],
    ?_, h.distinct⟩
  · rw [hl]
    exact ⟨fun hm => absurd hm hn, fun e => absurd e hf.2⟩
  · have := h.held
    have := readers_pos hc hp
    show s.window.release.2.held = s.pending.length + (s.modify i f).readers
    rw [Window.held_release]
    omega

/-- A claim that reads hands its slot on to the message it has read. -/
theorem slots_hold (h : s.Slots n) (hc : s.claims[i]? = some c) (hp : c.phase = .reading)
    (q : Queue Item) (id : Nat) (m : Message) : ((s.advance i q).hold id m).Slots n := by
  have hr := readers_modify hc fun c => { c with queue := q, phase := .admitting }
  simp only [hp, reduceCtorEq, if_false, if_true] at hr
  have hn := not_mem_line h hc (by simp [hp])
  have hh := h.held
  have hline := line_setPhase s.window (f := fun c => { c with queue := q, phase := .admitting })
    h hc ⟨fun hm => absurd hm hn, fun e => by simp at e⟩ fun j _ => Iff.rfl
  unfold hold
  cases hg : (s.advance i q).pending.get? id with
  | none =>
    refine ⟨h.window, hline, ?_, h.distinct.store id m⟩
    have := Pending.length_store_new (p := s.pending) hg m
    show s.window.held = (s.pending.store id m).2.length + (s.modify i _).readers
    omega
  | some old =>
    have hl := Window.line_release s.window
    refine ⟨h.window.release, fun j => ?_, ?_, h.distinct.store id m⟩
    · show j ∈ s.window.release.2.line ↔ _
      rw [hl]
      exact hline j
    · have := Pending.length_store s.pending id m
      have := Pending.length_remove h.distinct hg
      have := readers_pos hc hp
      show s.window.release.2.held = (s.pending.store id m).2.length + (s.modify i _).readers
      rw [Window.held_release]
      omega

/-- A message whose result has come gives its slot back. -/
theorem slots_apply (h : s.Slots n) (k : Nat) (d : Delivery) (b : Books) :
    (s.apply k d b).1.Slots n := by
  rcases apply_cases k d s b with ⟨-, hs, -⟩ | ⟨m, hm, hs, -⟩ <;> rw [hs]
  · exact h
  · refine ⟨h.window.release, fun j => ?_, ?_, h.distinct.remove d.id⟩
    · show j ∈ s.window.release.2.line ↔ _
      rw [Window.line_release]
      exact h.line j
    · have := Pending.length_remove h.distinct hm
      have := h.held
      show s.window.release.2.held = (s.pending.remove d.id).length + s.readers
      rw [Window.held_release]
      omega

/-- A claim whose queue is changed keeps its slot or its place in line. -/
theorem slots_modify (h : s.Slots n) (hc : s.claims[i]? = some c) {f : Claim → Claim}
    (hf : (f c).phase = c.phase) : (s.modify i f).Slots n := by
  have hr := readers_modify hc f
  rw [hf] at hr
  refine ⟨h.window, line_setPhase s.window h hc ?_ fun j _ => Iff.rfl, ?_, h.distinct⟩
  · rw [hf, h.line]
    simp [phase?, hc]
  · have := h.held
    show s.window.held = s.pending.length + (s.modify i f).readers
    omega

/-- The claims' slots do not depend on how far the session and its confirmer have come. -/
theorem Slots.of_same (h : s.Slots n) (hw : s'.window = s.window) (hp : s'.pending = s.pending)
    (hc : s'.claims = s.claims) : s'.Slots n := by
  refine ⟨hw ▸ h.window, fun i => ?_, ?_, hp ▸ h.distinct⟩
  · rw [hw, h.line, phase?, phase?, hc]
  · rw [hw, hp, h.held, readers, readers, hc]

theorem modify_modify (s : Session) (i : Nat) (f g : Claim → Claim) :
    (s.modify i f).modify i g = s.modify i (g ∘ f) := by
  unfold modify
  rw [List.modify_modify_eq]

/-- No move of a session loses a slot or uses one twice. -/
theorem slots_move {t : Task} (h : s.Slots n) (hm : Move r k s b t s' b') : s'.Slots n := by
  cases hm with
  | turnBack hc hp => exact slots_turnBack h hc hp
  | enter hc hp _ hw => exact slots_enter h hc hp hw
  | join hc hp _ hw => exact slots_join h hc hp hw
  | leave hc hp => exact slots_leave h hc hp
  | take hc hp _ hw => exact slots_take h hc hp hw
  | @stop i c hc hp =>
    exact slots_yield (f := fun c => { c with phase := .ended none }) h hc hp (by simp)
  | @fail i c e q hc hp _ _ =>
    have := slots_yield (f := (fun c => { c with phase := .ended (some e) }) ∘
      fun c => { c with queue := q }) h hc hp (by simp)
    rwa [← modify_modify] at this
  | oversize hc hp => exact slots_yield h hc hp (by simp)
  | unparsed hc hp => exact slots_yield h hc hp (by simp)
  | submit hc hp => exact slots_hold h hc hp _ _ _
  | dismissed | tune | attend | forgo | receive | letGo | drained | close =>
    exact h.of_same rfl rfl rfl
  | result =>
    exact slots_apply (s := { s with confirmer := .asking }) (h.of_same rfl rfl rfl) _ _ _
  | leftover => exact slots_apply h _ _ _

end Sluice.Session
