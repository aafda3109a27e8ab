import Sluice.Proofs.Session.Runs
/-!
# When a claim goes without a slot

A claim asks for a slot before it reads, so a claim with nothing to read keeps one. `idle` counts
these. When no task can move, a claim that has not ended either is idle or stands in line, and it
stands in line only if every slot is in use: by a message that waits for its result, or by an idle
claim. So items stay unread only for want of a slot, and never while fewer messages wait than the
window has slots beyond those that the idle claims keep.

* `settled_claim`: what a claim can be doing when no task can move.
* `unread_needs_full_window`: no item is unread while a slot is left.
* `idle_claim_starves`: messages alone need not fill the window for that.
-/
namespace Sluice.Session

/-- How many claims keep a slot and have nothing to read. -/
def idle (s : Session) : Nat :=
  s.claims.countP fun c => c.phase = .reading && c.queue.waiting.isEmpty

/-- How many claims have not ended. -/
def running (s : Session) : Nat := s.claims.countP fun c => !c.hasEnded

namespace Run
variable {n i : Nat} {rules : Rules} {r : Run} {c : Claim}

theorem stepClaim_of_settled (hs : r.Settled rules) (i : Nat) :
    r.session.stepClaim rules 0 i r.books = none := by
  have h := hs (.claim i)
  simpa [step, Session.step] using h

/-- When no task can move, a claim has ended, is idle, or waits in line without a grant. -/
theorem settled_claim (hs : r.Settled rules) (hn : r.session.cancelled = false)
    (hc : r.session.claims[i]? = some c) :
    c.hasEnded = true ∨ (c.phase = .reading ∧ c.queue.waiting = []) ∨
      (c.phase = .queued ∧ i ∉ r.session.window.granted) := by
  have h := stepClaim_of_settled hs i
  unfold stepClaim at h
  simp only [hc, hn] at h
  cases hp : c.phase with
  | admitting =>
    simp only [hp, Bool.false_eq_true, if_false] at h
    rcases Window.acquire_cases r.session.window i with ⟨-, e⟩ | ⟨-, e⟩ <;> simp [e] at h
  | queued =>
    simp only [hp, Bool.false_eq_true, if_false, Option.map_eq_none_iff] at h
    refine .inr (.inr ⟨rfl, fun hg => ?_⟩)
    have := Window.take_isSome hg
    rw [h] at this
    cases this
  | reading =>
    simp only [hp, Bool.false_eq_true, if_false] at h
    refine .inr (.inl ⟨rfl, ?_⟩)
    split at h
    · cases h
    · cases h
    · next hq => exact c.queue.pop?_eq_none_iff.mp hq
  | ended e => exact .inl (by simp [Claim.hasEnded, hp])

/-- When no task can move, the claims that read are the idle ones. -/
theorem readers_eq_idle (hs : r.Settled rules) (hn : r.session.cancelled = false) :
    r.session.readers = r.session.idle := by
  refine List.countP_congr fun c hc => ?_
  obtain ⟨i, hi⟩ := List.mem_iff_getElem?.mp hc
  simp only [decide_eq_true_eq, Bool.and_eq_true, List.isEmpty_iff]
  refine ⟨fun hp => ⟨hp, ?_⟩, fun h => h.1⟩
  rcases settled_claim hs hn hi with h | h | h
  · simp [Claim.hasEnded, hp] at h
  · exact h.2
  · rw [hp] at h
    cases h.1

/-- When no task can move and a claim stands in line, every slot is in use. -/
theorem full_of_queued (h : r.Reachable rules n) (hs : r.Settled rules)
    (hn : r.session.cancelled = false) (hc : r.session.claims[i]? = some c)
    (hp : c.phase = .queued) : r.session.pending.length + r.session.readers = max 1 n := by
  have hl := h.slots
  -- A claim that was granted a slot could take it.
  have hg : r.session.window.granted = [] := by
    refine List.eq_nil_iff_forall_not_mem.mpr fun j hj => ?_
    have hq := (hl.line j).mp (List.mem_append_left _ hj)
    obtain ⟨x, hx, hxp⟩ := Option.map_eq_some_iff.mp hq
    rcases settled_claim hs hn hx with he | he | he
    · simp [Claim.hasEnded, hxp] at he
    · rw [hxp] at he
      cases he.1
    · exact he.2 hj
  have hw : i ∈ r.session.window.waiting := by
    have := mem_line_of_queued hl hc hp
    rwa [Window.line, hg, List.nil_append] at this
  have hf : r.session.window.free = 0 := by
    rcases hl.window.calm with hf | hf
    · exact hf
    · rw [hf] at hw
      cases hw
  have ht := hl.window.total
  rw [Window.total, hg, hf, hl.held] at ht
  simpa using ht

/-- A claim that stands in line runs and does not read. -/
theorem readers_lt_running (hc : r.session.claims[i]? = some c) (hp : c.phase = .queued) :
    r.session.readers < r.session.running := by
  have hsplit : r.session.readers + r.session.claims.countP (fun c => c.phase = .queued) ≤
      r.session.running := by
    unfold readers running
    induction r.session.claims with
    | nil => exact Nat.le_refl 0
    | cons a l ih =>
      have ha : (if decide (a.phase = .reading) = true then 1 else 0) +
          (if decide (a.phase = .queued) = true then 1 else 0) ≤
          (if (!a.hasEnded) = true then 1 else 0) := by
        cases hq : a.phase <;> simp [Claim.hasEnded, hq]
      simp only [List.countP_cons]
      omega
  have : 0 < r.session.claims.countP fun c => c.phase = .queued :=
    List.countP_pos_iff.mpr ⟨c, List.mem_of_getElem? hc, by simp [hp]⟩
  omega

/-- **No slot, no reading.** When no task of a session can move and the session has not been told to
end, no claim that still runs has an unread item as long as the messages that wait and the idle
claims together are fewer than the slots. In particular there is none while there is a slot for every
message that waits and every claim that runs. -/
theorem unread_needs_full_window (h : r.Reachable rules n) (hs : r.Settled rules)
    (hn : r.session.cancelled = false) :
    (r.session.pending.length + r.session.idle < max 1 n →
      ∀ c ∈ r.session.claims, c.hasEnded = false → c.queue.waiting = []) ∧
    (r.session.pending.length + r.session.running ≤ max 1 n →
      ∀ c ∈ r.session.claims, c.hasEnded = false → c.queue.waiting = []) := by
  have key : ∀ c ∈ r.session.claims, c.hasEnded = false →
      c.queue.waiting = [] ∨ (r.session.pending.length + r.session.readers = max 1 n ∧
        r.session.readers < r.session.running) := by
    intro c hc he
    obtain ⟨i, hi⟩ := List.mem_iff_getElem?.mp hc
    rcases settled_claim hs hn hi with hd | hd | hd
    · rw [he] at hd
      cases hd
    · exact .inl hd.2
    · exact .inr ⟨full_of_queued h hs hn hi hd.1, readers_lt_running hi hd.1⟩
  rw [← readers_eq_idle hs hn]
  refine ⟨fun hlt c hc he => ?_, fun hle c hc he => ?_⟩ <;>
    rcases key c hc he with hd | ⟨hd, hr⟩
  · exact hd
  · omega
  · exact hd
  · omega

/-- Five slots and two claims, one that never had an item and one whose two messages wait: nothing is
unread. -/
theorem unread_needs_full_window_spare : ∃ r : Run, r.Reachable plainRules 5 ∧
    r.Settled plainRules ∧ r.session.cancelled = false ∧ r.session.claims.length = 2 ∧
    r.session.pending.length = 2 ∧ r.session.idle = 2 ∧ r.session.running = 2 ∧
    (r.session.pending.length + r.session.idle < max 1 5 →
      ∀ c ∈ r.session.claims, c.hasEnded = false → c.queue.waiting = []) ∧
    (r.session.pending.length + r.session.running ≤ max 1 5 →
      ∀ c ∈ r.session.claims, c.hasEnded = false → c.queue.waiting = []) := by
  obtain ⟨r, hr, hs, hn, hc, hp, hi, hu⟩ : ∃ r : Run,
      (ofCapacity 5).replay plainRules
        [.inl .setup, .inr .confirmer, .inl (.start "t" 0), .inr (.claim 0),
          .inl (.start "t" 1), .inr (.claim 1), .inl (.push 1 (.message (.plain "t" 1 0 [1]))),
          .inr (.claim 1), .inr (.claim 1), .inl (.push 1 (.message (.plain "t" 1 1 [2]))),
          .inr (.claim 1), .inr (.claim 1)] = some r ∧
      r.isSettled plainRules = true ∧ r.session.cancelled = false ∧ r.session.claims.length = 2 ∧
      r.session.pending.length = 2 ∧ r.session.idle = 2 ∧ r.session.running = 2 :=
    ⟨_, rfl, rfl, rfl, rfl, rfl, rfl, rfl⟩
  have h := Reachable.start.replay hr
  have hs := settled_of_isSettled hs
  exact ⟨r, h, hs, hn, hc, hp, hi, hu, unread_needs_full_window h hs hn⟩

/-- **Messages alone need not fill the window.** With one slot and two claims, the first claim to ask
keeps the slot for want of an item, and the item of the other stays unread, though no message
waits. -/
theorem idle_claim_starves : ∃ (rules : Rules) (n : Nat) (r : Run), r.Reachable rules n ∧
    r.Settled rules ∧ r.session.stage = .active ∧ r.session.cancelled = false ∧
    r.session.pending.length < n ∧
    ∃ c ∈ r.session.claims, c.hasEnded = false ∧ c.queue.waiting ≠ [] := by
  obtain ⟨r, hr, hs, ha, hn, hp, hc⟩ : ∃ r : Run,
      (ofCapacity 1).replay plainRules
        [.inl .setup, .inr .confirmer, .inl (.start "t" 0), .inr (.claim 0),
          .inl (.start "t" 1), .inr (.claim 1),
          .inl (.push 1 (.message (.plain "t" 1 0 [1])))] = some r ∧
      r.isSettled plainRules = true ∧ r.session.stage = .active ∧ r.session.cancelled = false ∧
      r.session.pending.length < 1 ∧
      (r.session.claims.any fun c => !c.hasEnded && !c.queue.waiting.isEmpty) = true :=
    ⟨_, rfl, rfl, rfl, rfl, by decide, rfl⟩
  obtain ⟨c, hc, he⟩ := List.any_eq_true.mp hc
  simp only [Bool.and_eq_true, Bool.not_eq_true', List.isEmpty_eq_false_iff] at he
  exact ⟨plainRules, 1, r, Reachable.start.replay hr, settled_of_isSettled hs, ha, hn, hp, c, hc, he⟩

end Run
end Sluice.Session
