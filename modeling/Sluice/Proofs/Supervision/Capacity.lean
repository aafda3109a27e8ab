import Sluice.Proofs.ClientProperties
import Sluice.Proofs.Relay.Ground
import Sluice.Proofs.Supervision.Callers
import Sluice.Proofs.Supervision.Refreshing
/-!
# What checked settings can build

The refresher needs a period that is not nought, and a session needs a window and room for all the
messages that may be undelivered. The check of the settings sees to the first. Of the number of
messages it makes sure only that there is one: settings pass it for which no session can be made.

* `Duration.parse_le`, `Draft.validate_numbers`: what the check says of these two.
* `Reachable.no_session`: without room for a session none is ever made.
* `Reachable.crashes`: a relay whose settings have no session crashes when it would make the first.
* `Draft.checked_builds`: both together, for every draft that passes the check.
* `boundless_crashes`: settings that pass, and for which not even a window can be made.
-/
namespace Sluice

/-! ## The check -/

/-- No text gives a longer duration than the greatest. -/
theorem Duration.parse_le {text : String} {t : Duration} (h : parse text = .ok t) :
    t.nanos ≤ max.nanos := by
  unfold parse at h
  dsimp only at h
  split at h
  · cases h
  · cases h
    exact Nat.zero_le _
  · cases hs : sum (Text.trim text) (some Binary64.zero) (Text.trim text).toList with
    | error e =>
      rw [hs] at h
      cases h
    | ok total =>
      rw [hs] at h
      cases total with
      | none => cases h
      | some x =>
        simp only [Except.bind, ofSum] at h
        split at h
        · cases h
        · cases h
          exact Nat.min_le_right _ _

namespace Draft

/-- What a check that succeeds says of the refresh interval and of the number of messages. -/
theorem validate_numbers {library : Pattern.Library} {d : Draft} {s : Settings}
    (h : d.validate library = .ok s) :
    0 < s.refreshInterval.nanos ∧ s.refreshInterval.nanos ≤ Duration.max.nanos ∧
      s.maxUndelivered =
        if d.maxUndelivered = 0 then defaultMaxUndelivered else d.maxUndelivered := by
  have passed := passed h
  obtain ⟨text, -, read⟩ := Option.map_eq_some_iff.mp passed.refresh
  have positive : s.refreshInterval.nanos ≠ 0 := fun he =>
    (sound h).refresh (congrArg Duration.mk he)
  exact ⟨Nat.pos_of_ne_zero positive, Duration.parse_le read, passed.maxUndelivered⟩

end Draft

/-! ## Without room for a session -/

namespace Relay
variable {settings : Settings} {w v : Relay} {s : Supervisor}

/-- To tell nobody to end changes no sessions. -/
theorem sessions_of_dismiss {which : Nat → Bool} (h0 : w.sessions = [])
    (hs : v.sessions = (w.ground.dismiss which).sessions) : v.sessions = [] := by
  rw [hs]
  simp only [Ground.dismiss, ground, h0, List.mapIdx_nil]

/-- Without sessions a call cannot set one up. -/
theorem sessions_of_call {c : Nat} {x : ConsumeCall} (hm : w.CallMove c x v) (h0 : w.sessions = []) :
    v.sessions = [] := by
  have hnone : ∀ {h : Hosted}, w.sessions[x.session]? ≠ some h := fun hk => by
    rw [h0] at hk
    cases hk
  cases hm with
  | refuse | fail => exact h0
  | unready _ _ _ _ hk | begin _ _ _ hk | leave _ hk | look _ hk | abort _ hk | drain _ hk
  | giveUp _ hk | close _ hk =>
    exact absurd hk hnone

/-- Without room the consume loop makes no session. -/
theorem sessions_of_loop (hm : w.LoopMove s v)
    (hfit : Pending.fits s.settings.maxUndelivered = false) (h0 : w.sessions = []) :
    v.sessions = [] := by
  have hrefresh : (w.refresh s).2.sessions = [] :=
    (congrArg Ground.sessions (ground_refresh w s)).trans h0
  cases hm with
  | stop => exact (congrArg Ground.sessions (ground_endLoop w s)).trans h0
  | join _ _ _ hr | joinFails _ _ _ hr =>
    rw [hr] at hrefresh
    exact hrefresh
  | idle | resume | finish | retry => exact h0
  | serve =>
    unfold serve
    simp only [hfit, Bool.not_false, if_true]
    exact h0
  | call _ _ hc => exact sessions_of_call hc h0

/-- Without room for a session none is ever made. -/
theorem Reachable.no_session (h : Reachable settings w)
    (hfit : Pending.fits settings.maxUndelivered = false) : w.sessions = [] := by
  induction h with
  | start => rfl
  | event e _ ih =>
    rcases ground_of_event _ e with ⟨which, hg⟩ | hg <;>
      exact sessions_of_dismiss ih (congrArg Ground.sessions hg)
  | @move w v t hr ht ih =>
    obtain ⟨s, hw, hset, -⟩ := hr.kept
    cases move_of_step ht with
    | @claim k _ _ hm | @confirmer k _ hm =>
      unfold stepSession at hm
      rw [show w.sessions[k]? = none by rw [ih]; rfl] at hm
      cases hm
    | feeder hk | straggler hk =>
      rw [ih] at hk
      cases hk
    | call _ _ hm => exact sessions_of_call hm ih
    | loop hs hm =>
      cases Option.some.inj (hw.symm.trans hs)
      exact sessions_of_loop hm (hset ▸ hfit) ih
    | forwarder _ hm => exact (congrArg Ground.sessions (ground_of_forwarder hm)).trans ih
    | refresher _ hm => exact (congrArg Ground.sessions (ground_of_refresher hm)).trans ih
    | caller _ hm =>
      obtain ⟨which, hg⟩ := ground_of_caller hm
      exact sessions_of_dismiss ih (congrArg Ground.sessions hg)

/-- The consume loop is about to make a session. -/
structure Serves (w : Relay) (s : Supervisor) : Prop where
  free : s.loop = .top
  goesOn : w.isStopped = false
  joined : s.group.isSome = true
  topics : s.topics ≠ []

/-- The consume loop has crashed, and the other tasks go on. -/
def HasCrashed (w : Relay) : Prop :=
  ∃ s, w.supervisor = some s ∧ s.loop = .crashed ∧ s.forwarder ≠ .ended ∧ s.refresher ≠ .ended

/-- Without room for a session the consume loop crashes when it would make one. -/
theorem Reachable.crashes (h : Reachable settings w) (hw : w.supervisor = some s)
    (hs : w.Serves s) (hfit : Pending.fits settings.maxUndelivered = false) :
    ∃ v, w.step .loop = some v ∧ v.HasCrashed := by
  obtain ⟨g, hg⟩ := Option.isSome_iff_exists.mp hs.joined
  obtain ⟨s', hw', hset, -⟩ := h.kept
  cases Option.some.inj (hw.symm.trans hw')
  obtain ⟨-, hforwarder, hrefresher⟩ := h.tasks_go_on hw hs.goesOn
  have hstep : w.step .loop = some (w.setLoop .crashed).wakeCallers := by
    unfold step
    rw [hw]
    dsimp only
    unfold stepLoop serve
    simp [hs.free, hs.goesOn, hg, hs.topics, hset, hfit]
  refine ⟨_, hstep, { s with loop := .crashed }, ?_, rfl, hforwarder, hrefresher⟩
  show w.supervisor.map _ = _
  rw [hw]
  rfl

/-- The consume loop joins the first group, and is about to make a session if a topic matches. -/
theorem serves_of_join {g : Nat} {topics : List String} (hw : w.supervisor = some s)
    (hl : s.loop = .top) (hst : w.isStopped = false) (hg : s.group = none)
    (hsel : (w.broker.select s.settings.pattern).1 = .ok topics)
    (hj : (w.looked s).broker.join.1 = .ok g) (hne : topics ≠ []) :
    ∃ v s', w.step .loop = some v ∧ v.supervisor = some s' ∧ v.Serves s' := by
  have hrefresh : w.refresh s = (.ok true, (w.looked s).joined.install s topics g) := by
    rw [← refreshAmid_alone]
    unfold refreshAmid
    rw [hsel]
    dsimp only
    rw [if_neg (by simp [hg])]
    simp only [id_eq, hj]
    exact if_neg (Bool.eq_false_iff.mp hst)
  refine ⟨(w.looked s).joined.install s topics g, s.install topics g, ?_, ?_, hl, ?_, rfl, hne⟩
  · unfold step
    rw [hw]
    dsimp only
    unfold stepLoop
    simp [hl, hst, hg, hrefresh]
  · unfold install
    rw [hg]
    show w.supervisor.map _ = _
    rw [hw]
    rfl
  · unfold install
    rw [hg]
    exact hst

/-- If a topic matches, the consume loop can come to make a session. -/
theorem serves_soon (settings : Settings) {name : String}
    (hm : settings.pattern.isMatch name = true) :
    ∃ w s, Reachable settings w ∧ w.supervisor = some s ∧ w.Serves s := by
  obtain ⟨w, s, hr, hw, hl, hst, hg, hsel, hj⟩ : ∃ w s, Reachable settings w ∧
      w.supervisor = some s ∧ s.loop = .top ∧ w.isStopped = false ∧ s.group = none ∧
      (w.broker.select s.settings.pattern).1 = .ok (settings.pattern.select [name]) ∧
      (w.looked s).broker.join.1 = .ok 0 :=
    ⟨_, _, Reachable.start.event (.createTopic name 1), rfl, rfl, rfl, rfl, rfl, rfl⟩
  obtain ⟨v, s', ht, hv, hserves⟩ := serves_of_join hw hl hst hg hsel hj (by simp [Pattern.select, hm])
  exact ⟨v, s', hr.move .loop ht, hv, hserves⟩

/-- With room for a session the consume loop does not crash. -/
theorem Reachable.not_crashed (h : Reachable settings w) (hw : w.supervisor = some s)
    (hfit : Pending.fits settings.maxUndelivered = true) : s.loop ≠ .crashed := by
  obtain ⟨s', hw', hset, he, -⟩ := h.kept
  cases Option.some.inj (hw.symm.trans hw')
  intro hl
  have hno := he.crashed hl
  rw [hset, hfit] at hno
  cases hno

end Relay

/-! ## Settings that passed the check -/

namespace Draft
open Relay

/-- What the settings `s` that were checked from draft `d` can build. -/
structure Builds (d : Draft) (s : Settings) : Prop where
  /-- The timer of the refresher has a period, and not too long a one. -/
  period : 0 < s.refreshInterval.nanos ∧ s.refreshInterval.nanos ≤ Duration.max.nanos
  /-- Some message may be undelivered. -/
  slots : 0 < s.maxUndelivered
  /-- A window can be made up to its greatest capacity, -/
  window : Window.fits s.maxUndelivered = true ↔ d.maxUndelivered ≤ Window.limit
  /-- but room for its messages only up to a smaller number. -/
  room : Pending.fits s.maxUndelivered = true ↔ d.maxUndelivered ≤ Pending.limit
  /-- Up to that number the consume loop never crashes. -/
  safe : d.maxUndelivered ≤ Pending.limit → ∀ (w : Relay) (u : Supervisor), Reachable s w →
    w.supervisor = some u → u.loop ≠ .crashed
  /-- Above it no session is ever made, and the consume loop crashes when it would make one, -/
  barred : Pending.limit < d.maxUndelivered → ∀ w : Relay, Reachable s w → w.sessions = [] ∧
    ∀ u, w.supervisor = some u → w.Serves u → ∃ v, w.step .loop = some v ∧ v.HasCrashed
  /-- which it comes to if there can be a topic for it. -/
  crashes : Pending.limit < d.maxUndelivered → ∀ name, s.pattern.isMatch name = true →
    ∃ w : Relay, Reachable s w ∧ w.HasCrashed

/-- A capacity is within a limit if the draft's number is, provided that the default is. -/
theorem capacity_le_iff {d : Draft} {n limit : Nat} (hdefault : defaultMaxUndelivered ≤ limit)
    (hn : n = if d.maxUndelivered = 0 then defaultMaxUndelivered else d.maxUndelivered) :
    n ≤ limit ↔ d.maxUndelivered ≤ limit := by
  subst hn
  split <;> omega

theorem crashes_of_unfit {s : Settings} {name : String}
    (hfit : Pending.fits s.maxUndelivered = false) (hm : s.pattern.isMatch name = true) :
    ∃ w : Relay, Reachable s w ∧ w.HasCrashed := by
  obtain ⟨w, u, hr, hw, hserves⟩ := serves_soon s hm
  obtain ⟨v, hv, hcrash⟩ := hr.crashes hw hserves hfit
  exact ⟨v, hr.move .loop hv, hcrash⟩

/-- **What settings that passed the check can build.** The check makes sure of the refresher's timer.
It does not bound the number of undelivered messages: a session can be made exactly if there are at
most `Pending.limit` of them, and above that the consume loop crashes at the first session, while the
other tasks go on. -/
theorem checked_builds {library : Pattern.Library} {d : Draft} {s : Settings}
    (h : d.validate library = .ok s) : d.Builds s := by
  obtain ⟨hpositive, hmax, hn⟩ := validate_numbers h
  have hwindow : Window.fits s.maxUndelivered = true ↔ d.maxUndelivered ≤ Window.limit :=
    decide_eq_true_iff.trans (capacity_le_iff (by decide) hn)
  have hroom : Pending.fits s.maxUndelivered = true ↔ d.maxUndelivered ≤ Pending.limit :=
    decide_eq_true_iff.trans (capacity_le_iff (by decide) hn)
  have hunfit : Pending.limit < d.maxUndelivered → Pending.fits s.maxUndelivered = false :=
    fun hlt => Bool.eq_false_iff.mpr fun hf => Nat.not_le_of_lt hlt (hroom.mp hf)
  have hslots : 0 < s.maxUndelivered := by
    rw [hn]
    split
    · decide
    · next hne => exact Nat.pos_of_ne_zero hne
  exact {
    period := ⟨hpositive, hmax⟩
    slots := hslots
    window := hwindow
    room := hroom
    safe := fun hle w u hr hw => hr.not_crashed hw (hroom.mpr hle)
    barred := fun hlt w hr => ⟨hr.no_session (hunfit hlt),
      fun u hw hserves => hr.crashes hw hserves (hunfit hlt)⟩
    crashes := fun hlt name hm => crashes_of_unfit (hunfit hlt) hm }

/-- With the default number of messages all can be built, and the consume loop never crashes. -/
theorem checked_builds_default : ∃ s, ClientProperties.tuned.validate = .ok s ∧
    ClientProperties.tuned.Builds s ∧ Pending.fits s.maxUndelivered = true ∧
    ∀ (w : Relay) (u : Supervisor), Reachable s w → w.supervisor = some u → u.loop ≠ .crashed := by
  obtain ⟨s, hs⟩ := ClientProperties.tuned_valid
  have hb := checked_builds hs
  have hle : ClientProperties.tuned.maxUndelivered ≤ Pending.limit := by decide
  exact ⟨s, hs, hb, hb.room.mpr hle, hb.safe hle⟩

/-- A draft that lets one message more be undelivered than a window can have slots. -/
def boundless : Draft :=
  ((standard.apply (.topicPattern ".*")).apply (.refreshInterval "1m")).apply
    (.maxUndelivered 2305843009213693952)

/-- **Settings that pass the check and crash the consume loop.** Not even a window can be made. -/
theorem boundless_crashes : ∃ s, boundless.validate = .ok s ∧
    Window.fits s.maxUndelivered = false ∧ ∃ w : Relay, Reachable s w ∧ w.HasCrashed := by
  have hmatch : (boundless.validate.toOption.map fun s => s.pattern.isMatch "t") = some true := by
    decide +kernel
  cases hs : boundless.validate with
  | error e =>
    rw [hs] at hmatch
    cases hmatch
  | ok s =>
    rw [hs] at hmatch
    have hn : s.maxUndelivered = 2305843009213693952 := (validate_numbers hs).2.2
    refine ⟨s, rfl, ?_, crashes_of_unfit ?_ (Option.some.inj hmatch)⟩
    · rw [hn]
      decide
    · rw [hn]
      decide

end Draft
end Sluice
