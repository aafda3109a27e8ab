import Sluice.Proofs.Relay.Runs
import Sluice.Proofs.Supervision.Calls
import Sluice.Proofs.Supervision.Changes
/-!
# Runs with their news

A chronicle is a run of a supervised relay from its start, its tasks moving in any order and anything
happening from outside, with the news that was made on the way. What the changes of a roster keep
holds at the end of every chronicle.

* `Chronicle`, `Reachable.chronicle`: runs with their news lead to every relay there is.
* `Chronicle.holds`: what holds at the start and is kept by every change.
* `recount`: the run of a script. `isSettled`: whether no task can move.
-/
namespace Sluice

/-- There is a supervisor, and it keeps its settings. -/
theorem Roster.Change.supervised {R S : Roster} {ns : List Notice} {s : Supervisor}
    (hs : R.supervisor = some s) (hc : R.Change ns S) :
    ∃ s', S.supervisor = some s' ∧ s'.settings = s.settings := by
  cases hc with
  | confirm | report | refuse | begin | leave | drain | giveUp | close | rebalance | stop | look
  | discard | forward | accept | call | wait | answer | abandon => exact ⟨s, hs, rfl⟩
  | install topics h0 =>
    cases Option.some.inj (hs.symm.trans h0)
    exact ⟨_, (install_fields R s topics).1, rfl⟩
  | turn p h0 | endLoop h0 | crash h0 | serve h0 | endForwarder h0 | follow h0 | endRefresher h0
  | postpone _ h0 | takeOver h0 | release h0 =>
    cases Option.some.inj (hs.symm.trans h0)
    exact ⟨_, rfl, rfl⟩

namespace Relay

/-- The relays that a supervisor with these settings can come to, with the news made on the way,
first to last. -/
inductive Chronicle (settings : Settings) : List Notice → Relay → Prop where
  | start : Chronicle settings [] (empty.start settings)
  | event {ns : List Notice} {w : Relay} (e : Event) : Chronicle settings ns w →
      Chronicle settings (ns ++ w.eventNotices e) (w.apply e)
  | move {ns : List Notice} {w v : Relay} (t : Task) : Chronicle settings ns w →
      w.step t = some v → Chronicle settings (ns ++ w.moveNotices t) v

variable {settings : Settings} {ns ms : List Notice} {w v : Relay}

theorem Chronicle.reachable (h : Chronicle settings ns w) : Reachable settings w := by
  induction h with
  | start => exact .start
  | event e _ ih => exact .event e ih
  | move t _ hs ih => exact .move t ih hs

theorem Reachable.chronicle (h : Reachable settings w) : ∃ ns, Chronicle settings ns w := by
  induction h with
  | start => exact ⟨_, .start⟩
  | event e _ ih =>
    obtain ⟨ns, h⟩ := ih
    exact ⟨_, .event e h⟩
  | move t _ hs ih =>
    obtain ⟨ns, h⟩ := ih
    exact ⟨_, .move t h hs⟩

theorem roster_start (settings : Settings) : ∃ due,
    (empty.start settings).supervisor = some (.first settings due) ∧
      (empty.start settings).roster = .first (.first settings due) := ⟨_, rfl, rfl⟩

/-- What holds of the roster at the start and is kept by every change, with its news, holds at the
end of every chronicle. -/
theorem Chronicle.holds {P : List Notice → Roster → Supervisor → Prop}
    (h0 : ∀ due, P [] (.first (.first settings due)) (.first settings due))
    (hp : ∀ {R S ns ms s s'}, P ns R s → R.supervisor = some s → s.settings = settings →
      R.Change ms S → S.supervisor = some s' → P (ns ++ ms) S s')
    (h : Chronicle settings ns w) :
    ∃ s, w.supervisor = some s ∧ s.settings = settings ∧ P ns w.roster s := by
  have hmany : ∀ {R S : Roster} {ms : List Notice}, R.Changes ms S → ∀ {ns : List Notice} {s},
      R.supervisor = some s → s.settings = settings → P ns R s →
      ∃ s', S.supervisor = some s' ∧ s'.settings = settings ∧ P (ns ++ ms) S s' := by
    intro R S ms hc
    induction hc with
    | none R =>
      intro ns s hs hset h
      rw [List.append_nil]
      exact ⟨s, hs, hset, h⟩
    | next hc _ ih =>
      intro ns s hs hset h
      obtain ⟨s', hs', hset'⟩ := hc.supervised hs
      rw [← List.append_assoc]
      exact ih hs' (hset'.trans hset) (hp h hs hset hc hs')
  induction h with
  | start =>
    obtain ⟨due, hs, hr⟩ := roster_start settings
    exact ⟨_, hs, rfl, hr ▸ h0 due⟩
  | event e hr ih =>
    obtain ⟨s, hs, hset, h⟩ := ih
    exact hmany (changes_of_event hr.reachable.enlisted hs e) hs hset h
  | move t _ ht ih =>
    obtain ⟨s, hs, hset, h⟩ := ih
    exact hmany (changes_of_step hs ht) hs hset h

/-- The groups of a supervised relay are enrolled and its calls are orderly. -/
theorem Reachable.kept (h : Reachable settings w) : ∃ s, w.supervisor = some s ∧
    s.settings = settings ∧ Enrolled w.roster s ∧ Orderly w.roster s := by
  obtain ⟨ns, h⟩ := h.chronicle
  exact h.holds (P := fun _ R s => Enrolled R s ∧ Orderly R s)
    (fun due => ⟨.start settings due, .start settings due⟩)
    fun ⟨he, ho⟩ hs _ hc hs' => ⟨he.change hs hc hs', ho.change he hs hc hs'⟩

/-! ## Scripts -/

/-- Where a relay comes to by these events and moves, and the news made on the way, if all the moves
can be made. -/
def recount : List (Event ⊕ Task) → Relay → Option (List Notice × Relay)
  | [], w => some ([], w)
  | .inl e :: rest, w => (recount rest (w.apply e)).map fun (ns, u) => (w.eventNotices e ++ ns, u)
  | .inr t :: rest, w =>
    (w.step t).bind fun v => (recount rest v).map fun (ns, u) => (w.moveNotices t ++ ns, u)

theorem Chronicle.recount {script : List (Event ⊕ Task)} (h : Chronicle settings ns w)
    (hr : w.recount script = some (ms, v)) : Chronicle settings (ns ++ ms) v := by
  induction script generalizing w ns ms with
  | nil =>
    cases hr
    rwa [List.append_nil]
  | cons a rest ih =>
    cases a with
    | inl e =>
      obtain ⟨⟨ks, y⟩, hy, he⟩ := Option.map_eq_some_iff.mp hr
      cases he
      rw [← List.append_assoc]
      exact ih (h.event e) hy
    | inr t =>
      obtain ⟨x, hx, hr⟩ := Option.bind_eq_some_iff.mp hr
      obtain ⟨⟨ks, y⟩, hy, he⟩ := Option.map_eq_some_iff.mp hr
      cases he
      rw [← List.append_assoc]
      exact ih (h.move t hx) hy

/-- All tasks that there are. -/
def tasks (w : Relay) : List Task :=
  [.loop, .forwarder, .refresher] ++ (List.range w.calls.length).map .consume ++
    (List.range w.callers.length).map .caller ++
    w.sessions.zipIdx.flatMap fun (h, k) => .confirmer k ::
      ((List.range h.session.claims.length).map (.claim k) ++
        (List.range h.feeders.length).map (.feeder k))

/-- Whether no task can move. -/
def isSettled (w : Relay) : Bool := w.tasks.all fun t => (w.step t).isNone

/-- A task that is not there cannot move. -/
theorem settled_of_isSettled (h : w.isSettled = true) : w.Settled := by
  have ht : ∀ t ∈ w.tasks, w.step t = none := by
    simpa [isSettled] using h
  suffices hall : ∀ t, (∀ k i, t ≠ .straggler k i) → w.step t = none by
    intro t
    cases t with
    | straggler k i => exact stepStraggler_eq_none (hall (.feeder k i) nofun)
    | _ => exact hall _ nofun
  intro t hn
  by_cases hm : t ∈ w.tasks
  · exact ht t hm
  · unfold tasks at hm
    simp only [List.mem_append, List.mem_cons, List.mem_map, List.mem_range, List.mem_flatMap,
      List.not_mem_nil, or_false, not_or, not_exists, not_and] at hm
    obtain ⟨⟨⟨⟨hl, hf, hr⟩, hc⟩, hcl⟩, hs⟩ := hm
    have hget : ∀ k h, w.sessions[k]? = some h → (h, k) ∈ w.sessions.zipIdx := fun k h hk =>
      List.mem_zipIdx_iff_getElem?.mpr hk
    cases t with
    | loop => exact absurd rfl hl
    | forwarder => exact absurd rfl hf
    | refresher => exact absurd rfl hr
    | consume c =>
      have hc : w.calls[c]? = none := List.getElem?_eq_none (by
        by_contra hlt
        exact hc c (Nat.lt_of_not_le hlt) rfl)
      simp [step, stepConsume, hc]
    | caller i =>
      have hi : w.callers[i]? = none := List.getElem?_eq_none (by
        by_contra hlt
        exact hcl i (Nat.lt_of_not_le hlt) rfl)
      unfold step
      cases w.supervisor with
      | none => rfl
      | some s => simp [stepCaller, hi]
    | confirmer k =>
      cases hk : w.sessions[k]? with
      | none => simp [step, stepSession, hk]
      | some h => exact absurd rfl (hs _ (hget k h hk)).1
    | claim k i =>
      cases hk : w.sessions[k]? with
      | none => simp [step, stepSession, hk]
      | some h =>
        have hi : h.session.claims[i]? = none := List.getElem?_eq_none (by
          by_contra hlt
          exact (hs _ (hget k h hk)).2.1 i (Nat.lt_of_not_le hlt) rfl)
        simp [step, stepSession, hk, Session.step, Session.stepClaim, hi]
    | feeder k i =>
      cases hk : w.sessions[k]? with
      | none => simp [step, stepFeeder, hk]
      | some h =>
        have hi : h.feeders[i]? = none := List.getElem?_eq_none (by
          by_contra hlt
          exact (hs _ (hget k h hk)).2.2 i (Nat.lt_of_not_le hlt) rfl)
        simp [step, stepFeeder, hk, hi]
    | straggler k i => exact absurd rfl (hn k i)

end Relay
end Sluice
