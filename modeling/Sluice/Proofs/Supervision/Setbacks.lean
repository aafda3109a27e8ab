import Sluice.Proofs.Relay.Ground
import Sluice.Proofs.Supervision.Drain
/-!
# What becomes of the failures of sessions

A failure comes back to the consume loop from the first join, or from the call that serves a session.
Before the end the loop shows it to the operator, counts it and pauses, unless a new group has been
installed in the meantime: then it goes on at once, whatever the failure was. So a failure of the
broker is lost if a group is installed while the session that it ended is still being torn down.

* `setback?`: the failure that the next move of the loop takes. `Struggle`: runs with their setbacks.
* `step_of_setback`: what the loop does about a failure.
* `Struggle.pausing`: a pause lasts for the full delay.
* `Struggle.decided`: failures of the broker come from the present group.
* `Struggle.setbacks_accounted`: what becomes of failures in every run.
* `setback_swallowed`: a failure of the broker that nobody is told of.
-/
namespace Sluice

/-- A failure that comes back to the consume loop. -/
structure Setback where
  error : RelayError
  /-- Whether a new group has been installed since the session began. -/
  superseded : Bool
  deriving DecidableEq, Repr

/-- The setbacks that matter to the loop. -/
def Setback.pressing (bs : List Setback) : List Setback := bs.filter fun b => !b.superseded

/-- What the operator is shown of setbacks. -/
def Setback.shown (bs : List Setback) : List Report := (pressing bs).map fun b => b.error.report

/-- The failure that has ended the session of a call. -/
def ConsumeCall.Phase.failure? : ConsumeCall.Phase → Option RelayError
  | .leaving failure => failure
  | .cleaning failure => failure
  | .ended failure => failure
  | _ => none

/-! ## What each step counts and shows -/

/-- The tasks of sessions count no failures of the broker. -/
theorem Session.failures_of_move {r : Rules} {k : Nat} {s s' : Session} {b b' : Books}
    {t : Session.Task} (hm : Move r k s b t s' b') :
    b'.metrics.consumeErrors = b.metrics.consumeErrors := by
  cases hm with
  | turnBack | enter | join | leave | take | stop | fail | oversize | unparsed | submit
  | dismissed | tune | attend | forgo | receive | letGo | drained | close => rfl
  | @result d sink =>
    rcases apply_cases k d { s with confirmer := .asking } (taken b sink) with ⟨-, -, e⟩ | ⟨m, -, -, e⟩
    · rw [e]
      rfl
    · rw [e]
      unfold bookResult
      split <;> rfl
  | @leftover d sink =>
    rcases apply_cases k d s { b with sink := sink } with ⟨-, -, e⟩ | ⟨m, -, -, e⟩
    · rw [e]
      rfl
    · rw [e]
      unfold bookResult
      split <;> rfl

/-- What was shown stays shown. -/
theorem Roster.Change.reports {R S : Roster} {ns : List Notice} (hc : R.Change ns S) :
    R.reports <+: S.reports := by
  have hsame : ∀ {T : Roster}, T.reports = R.reports → R.reports <+: T.reports :=
    fun h => h ▸ List.prefix_rfl
  cases hc with
  | confirm | refuse | begin | leave | drain | giveUp | close | rebalance | look | discard | accept
  | call | wait | answer | abandon | turn | crash | serve | endRefresher | postpone | takeOver
  | release | stop => exact List.prefix_rfl
  | report | forward => exact List.prefix_append _ _
  | @install s₀ topics => exact hsame (install_fields R s₀ topics).2.2.2.2.2.2.2.2.1
  | @endLoop s₀ =>
    obtain ⟨groups, left, he, -⟩ := leave?_eq R s₀.group
    exact hsame (congrArg Roster.reports he :)
  | @endForwarder s₀ _ reading =>
    obtain ⟨groups, he, -⟩ := dropStream?_eq R reading
    exact hsame (congrArg Roster.reports he :)
  | @follow s₀ _ reading =>
    obtain ⟨groups, reading', he, -⟩ := follow_eq R s₀ reading
    exact hsame (congrArg Roster.reports he :)

namespace Relay
variable {settings : Settings} {w v u : Relay} {s s' : Supervisor} {b : Setback}
  {bs cs : List Setback} {e : RelayError} {c n moment : Nat}

theorem same_of_feeder {k i : Nat} {h : Hosted} {f : Feeder} {cl : Claim}
    (hm : w.FeederMove k i h f cl v) : v.ground.calls = w.ground.calls ∧
      v.ground.loop = w.ground.loop ∧ v.ground.failures = w.ground.failures := by
  cases hm with
  | fail =>
    rw [ground_endFeeder, ground_feed]
    exact ⟨rfl, rfl, rfl⟩
  | stop | desert =>
    rw [ground_endFeeder]
    exact ⟨rfl, rfl, rfl⟩
  | put =>
    rw [ground_feed]
    exact ⟨rfl, rfl, rfl⟩
  | begin | park | block => exact ⟨rfl, rfl, rfl⟩

/-- A call goes on, and no other. -/
theorem same_of_call {x : ConsumeCall} (hm : w.CallMove c x v) :
    (∀ d, c ≠ d → v.calls[d]? = w.calls[d]?) ∧ v.ground.loop = w.ground.loop ∧
      v.ground.failures = w.ground.failures := by
  have hmod : ∀ p d, c ≠ d →
      (w.calls.modify c fun y => { y with phase := p })[d]? = w.calls[d]? :=
    fun p d hd => List.getElem?_modify_ne _ _ hd
  have hleave : ∀ {u : Relay} failure, u.calls = w.calls → u.ground.loop = w.ground.loop →
      u.ground.failures = w.ground.failures →
      (∀ d, c ≠ d → (u.leaveCall c x failure).calls[d]? = w.calls[d]?) ∧
        (u.leaveCall c x failure).ground.loop = w.ground.loop ∧
        (u.leaveCall c x failure).ground.failures = w.ground.failures := by
    intro u failure hc hl hf
    have hg := ground_leaveCall u c x failure
    refine ⟨fun d hd => ?_, (congrArg Ground.loop hg).trans hl, (congrArg Ground.failures hg).trans hf⟩
    rw [show (u.leaveCall c x failure).calls = _ from congrArg Ground.calls hg, ← hc]
    exact List.getElem?_modify_ne _ _ hd
  cases hm with
  | refuse | fail | unready | begin | drain | giveUp | close => exact ⟨hmod _, rfl, rfl⟩
  | leave => exact hleave _ rfl rfl rfl
  | look => exact ⟨fun _ _ => rfl, rfl, rfl⟩
  | abort => exact hleave _ rfl rfl rfl

theorem same_of_session {k : Nat} {t : Session.Task} (hs : w.stepSession k t = some v) :
    v.ground.calls = w.ground.calls ∧ v.ground.loop = w.ground.loop ∧
      v.ground.failures = w.ground.failures := by
  obtain ⟨h, s, b, xs, -, hm, rfl⟩ := move_of_session hs
  rw [ground_settleMove]
  exact ⟨rfl, rfl, Session.failures_of_move hm⟩

/-- Only the consume loop counts failures, and nobody else changes what it does. -/
theorem same_of_others {t : Task} (ht : t ≠ .loop) (hs : w.step t = some v) :
    (∀ d, t ≠ .consume d → v.calls[d]? = w.calls[d]?) ∧ v.ground.loop = w.ground.loop ∧
      v.ground.failures = w.ground.failures := by
  have hsame : v.ground.calls = w.ground.calls ∧ v.ground.loop = w.ground.loop ∧
      v.ground.failures = w.ground.failures → (∀ d, t ≠ .consume d → v.calls[d]? = w.calls[d]?) ∧
      v.ground.loop = w.ground.loop ∧ v.ground.failures = w.ground.failures :=
    fun ⟨hc, h⟩ => ⟨fun d _ => by rw [show v.calls = w.calls from hc], h⟩
  cases move_of_step hs with
  | claim hs | confirmer hs => exact hsame (same_of_session hs)
  | feeder _ _ _ hm | straggler _ _ _ hm => exact hsame (same_of_feeder hm)
  | call _ _ hm =>
    obtain ⟨hc, h⟩ := same_of_call hm
    exact ⟨fun d hd => hc d fun e => hd (congrArg Task.consume e), h⟩
  | loop => exact absurd rfl ht
  | forwarder _ hm =>
    refine hsame ?_
    rw [ground_of_forwarder hm]
    exact ⟨rfl, rfl, rfl⟩
  | refresher _ hm =>
    refine hsame ?_
    rw [ground_of_refresher hm]
    exact ⟨rfl, rfl, rfl⟩
  | caller _ hm =>
    obtain ⟨which, hg⟩ := ground_of_caller hm
    refine hsame ?_
    rw [hg]
    exact ⟨rfl, rfl, rfl⟩

/-! ## Setbacks -/

/-- The failure that the next move of the consume loop takes, before the end. -/
def setback? (w : Relay) (s : Supervisor) : Option Setback :=
  if w.isStopped then none
  else
    match s.loop with
    | .top =>
      match s.group, (w.refresh s).1 with
      | none, .error e => some ⟨e, false⟩
      | _, _ => none
    | .serving c n =>
      match w.calls[c]?.map ConsumeCall.phase with
      | some (.ended (some e)) => some ⟨e, s.generation != n⟩
      | _ => none
    | _ => none

/-- The setbacks of the next move of a task. -/
def setbacks (w : Relay) (t : Task) : List Setback :=
  match t, w.supervisor with
  | .loop, some s => (w.setback? s).toList
  | _, _ => []

/-- A failure comes back from the first join, or from the call that the loop runs. -/
theorem setback_cases (h : w.setback? s = some b) : w.isStopped = false ∧
    ((b.superseded = false ∧ s.loop = .top ∧ s.group = none ∧
        ∃ u, w.refresh s = (.error b.error, u)) ∨
      ∃ c n x, b.superseded = (s.generation != n) ∧ s.loop = .serving c n ∧
        w.calls[c]? = some x ∧ x.phase = .ended (some b.error)) := by
  unfold setback? at h
  split at h
  · cases h
  · next hst =>
    refine ⟨Bool.eq_false_iff.mpr hst, ?_⟩
    split at h
    · next hl =>
      split at h
      · next hg hr =>
        cases h
        exact .inl ⟨rfl, hl, hg, _, Prod.ext hr rfl⟩
      · cases h
    · next c n hl =>
      split at h
      · next e hc =>
        cases h
        obtain ⟨x, hx, hp⟩ := Option.map_eq_some_iff.mp hc
        exact .inr ⟨c, n, x, rfl, hl, hx, hp⟩
      · cases h
    · cases h

/-- A refresh that fails changes nothing that the loop goes by. -/
theorem same_of_refresh_fails (hw : w.supervisor = some s) (hr : w.refresh s = (.error e, u)) :
    u.supervisor = some s ∧ u.now = w.now ∧ u.ground = w.ground ∧
      u.books.sink.errors.items = w.books.sink.errors.items := by
  have hg := ground_refresh w s
  have hn := congrArg Scene.now (scene_refresh w s)
  rw [hr] at hg hn
  rcases refresh_cases hw hr with ⟨-, hv⟩ | ⟨h, -⟩ | ⟨h, -⟩
  · exact ⟨(congrArg Roster.supervisor hv).trans hw, hn, hg, congrArg Roster.reports hv⟩
  · cases h
  · cases h

/-- The loop goes on at once if a new group has been installed; if not, it shows the failure, counts
it and pauses. -/
theorem step_of_setback (hw : w.supervisor = some s) (hb : w.setback? s = some b) :
    (b.superseded = true ∧ w.step .loop = some (w.setLoop .top)) ∨
    (b.superseded = false ∧ ∃ u : Relay, w.step .loop = some (u.retry s b.error) ∧ u.supervisor = some s ∧
      u.now = w.now ∧ u.ground = w.ground ∧
      u.books.sink.errors.items = w.books.sink.errors.items) := by
  have hstep : w.step .loop = w.stepLoop s := by simp only [step, hw]
  rw [hstep]
  obtain ⟨hst, ⟨hn, hl, hg, u, hr⟩ | ⟨c, n, x, hn, hl, hx, hp⟩⟩ := setback_cases hb
  · refine .inr ⟨hn, u, ?_, same_of_refresh_fails hw hr⟩
    simp only [stepLoop, hl, hst, hg, hr]
    rfl
  · by_cases he : s.generation = n
    · refine .inr ⟨by rw [hn, he, bne_self_eq_false], w, ?_, hw, rfl, rfl, rfl⟩
      simp [stepLoop, hl, hx, hp, he, hst]
    · refine .inl ⟨by rw [hn]; exact bne_iff_ne.mpr he, ?_⟩
      simp [stepLoop, hl, hx, hp, he]

/-- Without a setback the loop counts no failure. -/
theorem failures_of_quiet_loop (hm : w.LoopMove s v) (hb : w.setback? s = none) :
    v.ground.failures = w.ground.failures := by
  cases hm with
  | stop => rw [ground_endLoop]; rfl
  | @join b' u _ _ _ hr =>
    have hg := ground_refresh w s
    rw [hr] at hg
    exact congrArg Ground.failures hg
  | joinFails hl hst hg hr => simp [setback?, hl, hst, hg, hr] at hb
  | idle => rw [ground_pause]; rfl
  | serve => rcases ground_serve w s _ with hg | hg <;> rw [hg] <;> rfl
  | resume | finish => rw [ground_setLoop]; rfl
  | call _ _ hm => exact (same_of_call hm).2.2
  | retry hl hx hp hn hst => simp [setback?, hl, hst, hx, hp] at hb

/-- Every step counts the setbacks that matter, and nothing else. -/
theorem failures_of_step {t : Task} (hs : w.step t = some v) : v.ground.failures =
    w.ground.failures + (Setback.pressing (w.setbacks t)).length := by
  by_cases ht : t = .loop
  · subst ht
    cases move_of_step hs with
    | @loop s _ hw hm =>
      have hsb : w.setbacks .loop = (w.setback? s).toList := by simp only [setbacks, hw]
      rw [hsb]
      cases hb : w.setback? s with
      | none => exact failures_of_quiet_loop hm hb
      | some b =>
        rcases step_of_setback hw hb with ⟨hn, he⟩ | ⟨hn, u, he, -, -, hg, -⟩
        · cases he.symm.trans hs
          rw [ground_setLoop]
          simp [Setback.pressing, hn, Ground.setLoop]
        · cases he.symm.trans hs
          rw [ground_retry, hg]
          simp [Setback.pressing, hn, Ground.setLoop]
  · rw [(same_of_others ht hs).2.2]
    cases t with
    | loop => exact absurd rfl ht
    | claim | feeder | straggler | confirmer | consume | forwarder | refresher | caller => rfl

/-- Every step shows the setbacks that matter, behind what was shown before. -/
theorem shown_of_step (hw : w.supervisor = some s) {t : Task} (hs : w.step t = some v) :
    ∃ rest, v.books.sink.errors.items = w.books.sink.errors.items ++ rest ∧
      (Setback.shown (w.setbacks t)).Sublist rest := by
  have hpre : w.books.sink.errors.items <+: v.books.sink.errors.items :=
    (changes_of_step hw hs).holds (P := fun R => w.roster.reports <+: R.reports)
      (fun hp hc => hp.trans hc.reports) List.prefix_rfl
  obtain ⟨rest, hrest⟩ := hpre
  cases hb : w.setbacks t with
  | nil => exact ⟨rest, hrest.symm, List.nil_sublist _⟩
  | cons b bs =>
    have ht : t = .loop := by
      cases t with
      | loop => rfl
      | claim | feeder | straggler | confirmer | consume | forwarder | refresher | caller => cases hb
    subst ht
    have hsb : w.setbacks .loop = (w.setback? s).toList := by simp only [setbacks, hw]
    obtain ⟨hb', rfl⟩ : w.setback? s = some b ∧ bs = [] := by
      cases h : w.setback? s with
      | none => simp [hsb, h] at hb
      | some a => simpa [hsb, h, eq_comm] using hb
    rcases step_of_setback hw hb' with ⟨hn, -⟩ | ⟨hn, u, he, -, -, -, hu⟩
    · exact ⟨rest, hrest.symm, by simp [Setback.shown, Setback.pressing, hn]⟩
    · cases he.symm.trans hs
      refine ⟨[b.error.report], congrArg (· ++ [b.error.report]) hu, ?_⟩
      simp [Setback.shown, Setback.pressing, hn]

/-! ## Runs with their setbacks -/

/-- The relays that a supervised relay comes to, its tasks moving in any order and anything happening
from outside, with the setbacks on the way, first to last. -/
inductive Struggle (w : Relay) : List Setback → Relay → Prop where
  | here : Struggle w [] w
  | event {bs : List Setback} {v : Relay} (e : Event) : Struggle w bs v → Struggle w bs (v.apply e)
  | move {bs : List Setback} {v u : Relay} (t : Task) : Struggle w bs v → v.step t = some u →
      Struggle w (bs ++ v.setbacks t) u

theorem Struggle.reachable (h : w.Struggle bs v) (hr : Reachable settings w) :
    Reachable settings v := by
  induction h with
  | here => exact hr
  | event e _ ih => exact .event e ih
  | move t _ hs ih => exact .move t ih hs

theorem Reachable.struggle (h : Reachable settings w) :
    ∃ bs, (empty.start settings).Struggle bs w := by
  induction h with
  | start => exact ⟨_, .here⟩
  | event e _ ih =>
    obtain ⟨bs, h⟩ := ih
    exact ⟨_, h.event e⟩
  | move t _ hs ih =>
    obtain ⟨bs, h⟩ := ih
    exact ⟨_, h.move t hs⟩

/-- Every relay on the way has counted the setbacks that matter, and shown them in order. -/
theorem Struggle.counted (h : w.Struggle bs v) (hr : Reachable settings w)
    (h0 : w.books.metrics.consumeErrors = 0) :
    v.books.metrics.consumeErrors = (Setback.pressing bs).length ∧
      (Setback.shown bs).Sublist v.books.sink.errors.items := by
  induction h with
  | here => exact ⟨h0, List.nil_sublist _⟩
  | @event bs v e h ih =>
    obtain ⟨s, hs, -⟩ := (h.reachable hr).kept
    refine ⟨(kept_by_event v e).2.2.trans ih.1, ih.2.trans (List.IsPrefix.sublist ?_)⟩
    exact (changes_of_event (h.reachable hr).enlisted hs e).holds (P := fun R => v.roster.reports <+: R.reports)
      (fun hp hc => hp.trans hc.reports) List.prefix_rfl
  | @move bs v u t h hs ih =>
    obtain ⟨s, hv, -⟩ := (h.reachable hr).kept
    obtain ⟨rest, hu, hsub⟩ := shown_of_step hv hs
    have hf := failures_of_step hs
    unfold Setback.shown Setback.pressing at hf ih hsub ⊢
    rw [List.filter_append, List.length_append, List.map_append, hu]
    exact ⟨by rw [← ih.1]; exact hf, ih.2.append hsub⟩

/-! ## Pauses -/

theorem Reachable.stopped_of_event (hr : Reachable settings w) (hst : w.isStopped = true)
    (e : Event) : (w.apply e).isStopped = true := by
  obtain ⟨s, hs, -⟩ := hr.kept
  exact (changes_of_event hr.enlisted hs e).holds (P := fun R => R.stopped = true)
    (fun hst hc => hc.stays_stopped hst) hst

/-- A loop that pauses does so until its moment has come, or the end is told. -/
theorem Struggle.pausing (h : w.Struggle bs v) (hr : Reachable settings w)
    (hl : w.ground.loop = some (.pausing moment)) :
    v.isStopped = true ∨ moment ≤ v.now ∨ v.ground.loop = some (.pausing moment) := by
  induction h with
  | here => exact .inr (.inr hl)
  | @event bs v e h ih =>
    rcases ih with hst | hn | hl
    · exact .inl ((h.reachable hr).stopped_of_event hst e)
    · exact .inr (.inl (Nat.le_trans hn (now_of_event v e)))
    · exact .inr (.inr ((kept_by_event v e).2.1.trans hl))
  | @move bs v u t h hs ih =>
    have hnow : u.now = v.now := (Moves.here.move t hs).now_eq
    rcases ih with hst | hn | hl
    · exact .inl ((h.reachable hr).stays_stopped hst hs)
    · exact .inr (.inl (hnow ▸ hn))
    · by_cases ht : t = .loop
      · subst ht
        cases move_of_step hs with
        | @loop s _ hw hm =>
          have hp : s.loop = .pausing moment := by
            rw [ground, hw] at hl
            exact Option.some.inj hl
          cases hm with
          | stop hst => exact .inl ((h.reachable hr).stays_stopped hst hs)
          | resume hp' _ hn =>
            cases hp.symm.trans hp'
            exact .inr (.inl hn)
          | join hp' | joinFails hp' | idle hp' | serve hp' | call hp' | finish hp' | retry hp' =>
            cases hp.symm.trans hp'
      · exact .inr (.inr ((same_of_others ht hs).2.1.trans hl))

/-! ## Where failures come from -/

/-- A call gets a failure of the broker only while its group is open, or if its session cannot be
cleaned up. -/
theorem failure_of_call {x y : ConsumeCall} (hm : w.CallMove c x v) (hx : w.calls[c]? = some x)
    (hy : v.calls[c]? = some y) (hf : y.phase.failure? = some e) :
    x.phase.failure? = some e ∨ x.phase.failure? = none ∧ (e = .groupClosed ∨
      w.broker.isClosed x.group = false ∨
      (∃ failure h, x.phase = .leaving failure ∧ w.sessions[x.session]? = some h ∧
        h.session.stage ≠ .active)) := by
  have hset : ∀ {u : Relay} {p}, u.calls = w.calls → (u.setCall c p).calls[c]? = some y →
      y.phase = p := by
    intro u p hu hy
    obtain ⟨z, -, rfl⟩ := Option.map_eq_some_iff.mp ((List.getElem?_modify_eq ..).symm.trans hy)
    rfl
  have hleave : ∀ {u : Relay} {failure}, u.calls = w.calls →
      (u.leaveCall c x failure).calls[c]? = some y → y.phase = .leaving failure := by
    intro u failure hu hy
    exact hset ((congrArg Ground.calls (ground_endSession u x.session)).trans hu) hy
  cases hm with
  | refuse hp =>
    rw [hset rfl hy] at hf
    cases hf
    exact .inr ⟨by rw [hp]; rfl, .inl rfl⟩
  | fail _ hp hg | unready _ hp hg | begin hp hg => exact .inr ⟨by rw [hp]; rfl, .inr (.inl hg)⟩
  | leave hp _ hr =>
    rw [hleave rfl hy] at hf
    cases hf
    rcases hr with ⟨-, he⟩ | ⟨-, -, he⟩ <;> cases he
    exact .inr ⟨by rw [hp]; rfl, .inl rfl⟩
  | look =>
    cases hx.symm.trans hy
    exact .inl hf
  | abort hp _ hg => exact .inr ⟨by rw [hp]; rfl, .inr (.inl hg)⟩
  | drain hp | close hp =>
    rw [hset rfl hy] at hf
    exact .inl (by rw [hp]; exact hf)
  | @giveUp h failure hp hk _ _ ha =>
    rw [hset rfl hy] at hf
    cases failure with
    | none => exact .inr ⟨by rw [hp]; rfl, .inr (.inr ⟨none, h, hp, hk, ha⟩)⟩
    | some e' => exact .inl (by rw [hp]; exact hf)

/-- A loop that serves a session after its move has begun to serve it, or has moved its call, or has
joined the first group and not moved at all. -/
theorem serving_of_move (hw : w.supervisor = some s) (hm : w.LoopMove s v)
    (hl : v.ground.loop = some (.serving c n)) :
    v.ground = w.ground ∨ (∃ x, s.loop = .serving c n ∧ w.calls[c]? = some x ∧ w.CallMove c x v) ∨
      ∃ y, v.calls[c]? = some y ∧ y.phase = .fresh := by
  have hloop : w.ground.loop = some s.loop := by rw [ground, hw]; rfl
  -- a loop that has gone over to something else serves nobody
  have hother : ∀ {G : Ground} {p : Supervisor.Loop}, G.loop = some s.loop →
      v.ground = G.setLoop p → p = .serving c n := fun {G p} hG hg => by
    rw [hg, Ground.setLoop, hG] at hl
    exact Option.some.inj hl
  cases hm with
  | stop => cases hother hloop (ground_endLoop w s)
  | join _ _ _ hr =>
    have hg := ground_refresh w s
    rw [hr] at hg
    exact .inl hg
  | joinFails _ _ _ hr =>
    have hg := (same_of_refresh_fails hw hr).2.2.1
    cases hother (by exact (congrArg Ground.loop hg).trans hloop) (ground_retry _ s _)
  | idle => cases hother hloop (ground_pause w s)
  | serve =>
    rcases ground_serve w s _ with hg | hg
    · cases hother hloop hg
    · cases hother (by exact hloop) hg
      exact .inr (.inr ⟨_, (congrArg (·[w.calls.length]?) (congrArg Ground.calls hg)).trans
        List.getElem?_concat_length, rfl⟩)
  | resume => cases hother (by exact hloop) (ground_setLoop (w.clearTimer .loop) _)
  | call hp hx hm =>
    have hsame := (same_of_call hm).2.1
    rw [hsame, hloop] at hl
    cases hp.symm.trans (Option.some.inj hl)
    exact .inr (.inl ⟨_, hp, hx, hm⟩)
  | finish => cases hother hloop (ground_setLoop w _)
  | retry => cases hother (by exact hloop) (ground_retry w s _)

/-- A step in which call `c`, which the loop runs on the group of generation `n`, gets failure `e`
while that group is the present one. -/
structure Fails (c n : Nat) (e : RelayError) (w v : Relay) : Prop where
  step : ∃ t, w.step t = some v
  present : ∃ s, w.supervisor = some s ∧ s.loop = .serving c n ∧ s.generation = n
  before : ∃ x, w.calls[c]? = some x ∧ x.phase.failure? = none
  after : ∃ y, v.calls[c]? = some y ∧ y.phase.failure? = some e

/-- The call that the loop runs gets a failure of the broker from the present group. -/
theorem Reachable.fails_of_call (hr : Reachable settings w) (hw : w.supervisor = some s)
    (hp : s.loop = .serving c n) {x y : ConsumeCall} (hx : w.calls[c]? = some x)
    (hs : w.step .loop = some v) (hm : w.CallMove c x v) (hy : v.calls[c]? = some y)
    (hf : y.phase.failure? = some e) (he : e ≠ .groupClosed) :
    Fails c n e w v ∨ x.phase.failure? = some e := by
  obtain ⟨s', hw', -, -, ho⟩ := hr.kept
  cases Option.some.inj (hw.symm.trans hw')
  rcases failure_of_call hm hx hy hf with hfx | ⟨hn, hclosed | hopen | ⟨_, h, hph, hk, ha⟩⟩
  · exact .inr hfx
  · exact absurd hclosed he
  · refine .inl ⟨⟨_, hs⟩, ⟨s, hw, hp, ?_⟩, ⟨x, hx, hn⟩, ⟨y, hy, hf⟩⟩
    obtain ⟨z, hz, -, -, hcl⟩ := ho.serving c n hp
    cases Option.some.inj (hx.symm.trans hz)
    by_contra hne
    have hclosed := Roster.isClosed_eq w.roster x.group
    rw [hcl (Ne.symm hne)] at hclosed
    exact absurd (hopen.symm.trans hclosed) nofun
  · rw [(ho.paired c x hx).1] at hk
    have hfit := ho.fits c x h.post hx (posts_get hk)
    rw [hph] at hfit
    exact absurd hfit.1 ha

/-- A call of the loop that has failed had failed before, or its group was the present one. -/
theorem Reachable.fails_of_step (hr : Reachable settings w) {t : Task} {y : ConsumeCall}
    (hs : w.step t = some v) (hl : v.ground.loop = some (.serving c n)) (hy : v.calls[c]? = some y)
    (hf : y.phase.failure? = some e) (he : e ≠ .groupClosed) :
    Fails c n e w v ∨ w.ground.loop = some (.serving c n) ∧
      ∃ x, w.calls[c]? = some x ∧ x.phase.failure? = some e := by
  by_cases ht : t = .loop
  · subst ht
    cases move_of_step hs with
    | @loop s _ hw hm =>
      rcases serving_of_move hw hm hl with hg | ⟨x, hp, hx, hm⟩ | ⟨z, hz, hfresh⟩
      · exact .inr ⟨hg ▸ hl, y, (congrArg (·[c]?) (congrArg Ground.calls hg)).symm.trans hy, hf⟩
      · refine (hr.fails_of_call hw hp hx hs hm hy hf he).imp_right fun hfx => ⟨?_, x, hx, hfx⟩
        rw [ground, hw]
        exact congrArg some hp
      · cases Option.some.inj (hy.symm.trans hz)
        rw [hfresh] at hf
        cases hf
  · obtain ⟨hc, hsame, -⟩ := same_of_others ht hs
    rw [hsame] at hl
    refine .inr ⟨hl, y, ?_, hf⟩
    rw [← hc c fun e => ?_]
    · exact hy
    · -- no other task moves the call that the loop runs
      subst e
      cases move_of_step hs with
      | call hn =>
        refine hn ?_
        unfold loopCall
        rw [show w.supervisor.map Supervisor.loop = _ from hl]

/-- **Failures of the broker come from the present group.** A call that the loop runs and that has
failed, but not because its group was closed, has failed at a moment when that group was the present
one. -/
theorem Struggle.decided (h : (empty.start settings).Struggle bs w) {x : ConsumeCall}
    (hl : w.ground.loop = some (.serving c n)) (hx : w.calls[c]? = some x)
    (hf : x.phase.failure? = some e) (he : e ≠ .groupClosed) :
    ∃ (u v : Relay) (cs ds : List Setback), (empty.start settings).Struggle cs u ∧
      Fails c n e u v ∧ v.Struggle ds w := by
  induction h generalizing x with
  | here => cases hl
  | @event bs w e' h ih =>
    obtain ⟨hc, hloop, -⟩ := kept_by_event w e'
    rw [hloop] at hl
    rw [hc] at hx
    obtain ⟨u, v, cs, ds, hu, hm, hv⟩ := ih hl hx hf
    exact ⟨u, v, cs, _, hu, hm, hv.event e'⟩
  | @move bs w v t h hs ih =>
    rcases (h.reachable .start).fails_of_step hs hl hx hf he with hm | ⟨hl, x, hx, hf⟩
    · exact ⟨w, v, bs, _, h, hm, .here⟩
    · obtain ⟨u, v, cs, ds, hu, hm, hv⟩ := ih hl hx hf
      exact ⟨u, v, cs, _, hu, hm, hv.move t hs⟩

/-! ## What the loop does about a failure -/

theorem le_tickOf (nanos : Nat) :
    nanos ≤ tickOf nanos * tick ∧ tickOf nanos * tick < nanos + tick := by
  unfold tickOf tick
  omega

/-- The loop has shown failure `e` to the operator and counted it, once each, and pauses. -/
structure Heeds (w : Relay) (s : Supervisor) (e : RelayError) (v : Relay) : Prop where
  shown : v.books.sink.errors.items = w.books.sink.errors.items ++ [e.report]
  counted : v.books.metrics.consumeErrors = w.books.metrics.consumeErrors + 1
  pausing : v.supervisor.map Supervisor.loop =
    some (.pausing (w.pauseEnd s.settings.reconnectDelay))
  timer : (w.pauseEnd s.settings.reconnectDelay, .loop) ∈ v.timers
  /-- The pause takes the whole delay, up to the next millisecond. -/
  full : w.now * tick + s.settings.reconnectDelay.nanos ≤
      w.pauseEnd s.settings.reconnectDelay * tick ∧
    w.pauseEnd s.settings.reconnectDelay * tick <
      w.now * tick + s.settings.reconnectDelay.nanos + tick
  /-- Until then the loop does nothing, unless the end is told. -/
  idle : ∀ bs u, v.Struggle bs u → u.isStopped = true ∨
    w.pauseEnd s.settings.reconnectDelay ≤ u.now ∨
    u.supervisor.map Supervisor.loop = some (.pausing (w.pauseEnd s.settings.reconnectDelay))

/-- The loop goes on at once, whatever failure `e` was: nobody is told of it. The group that it came
from has been replaced. The failure is that this group was closed, or it came from the group while
that was the present one. -/
structure Disregards (settings : Settings) (w : Relay) (s : Supervisor) (e : RelayError)
    (v : Relay) : Prop where
  onward : v = w.setLoop .top
  replaced : ∃ c n x, s.loop = .serving c n ∧ w.calls[c]? = some x ∧
    x.phase = .ended (some e) ∧ n < s.generation ∧ s.group ≠ some x.group ∧
    w.broker.isClosed x.group = true ∧
    (e = .groupClosed ∨ ∃ u u' bs cs, (empty.start settings).Struggle bs u ∧ Fails c n e u u' ∧
      u'.Struggle cs w)

/-- A pressing setback is heeded. -/
theorem Reachable.heeds (hr : Reachable settings w) (hw : w.supervisor = some s)
    (hb : w.setback? s = some b) (hs : w.step .loop = some v) (hn : b.superseded = false) :
    w.Heeds s b.error v := by
  have hreach : Reachable settings v := .move .loop hr hs
  rcases step_of_setback hw hb with ⟨hn', -⟩ | ⟨-, u, he, hu, hnow, hg, hitems⟩
  · rw [hn] at hn'
    cases hn'
  · cases he.symm.trans hs
    have hm : u.pauseEnd s.settings.reconnectDelay = w.pauseEnd s.settings.reconnectDelay := by
      unfold pauseEnd
      rw [hnow]
    have hl : (u.retry s b.error).ground.loop =
        some (.pausing (w.pauseEnd s.settings.reconnectDelay)) := by
      rw [ground_retry, hm]
      simp only [Ground.setLoop, ground, hu, Option.map_some]
    refine ⟨congrArg (· ++ [b.error.report]) hitems, ?_, hl, ?_, le_tickOf _,
      fun ds x hx => hx.pausing hreach hl⟩
    · have hf := congrArg Ground.failures (ground_retry u s b.error)
      exact hf.trans (congrArg (fun G : Ground => G.failures + 1) hg)
    · rw [← hm]
      exact List.mem_append_right _ List.mem_cons_self

/-- A setback that was superseded is disregarded. -/
theorem Struggle.disregards (h : (empty.start settings).Struggle bs w) (hw : w.supervisor = some s)
    (hb : w.setback? s = some b) (hs : w.step .loop = some v) (hn : b.superseded = true) :
    Disregards settings w s b.error v := by
  have hr : Reachable settings w := h.reachable .start
  rcases step_of_setback hw hb with ⟨-, he⟩ | ⟨hn', -⟩
  · refine ⟨Option.some.inj (hs.symm.trans he), ?_⟩
    obtain ⟨-, ⟨hn', -⟩ | ⟨c, n, x, hsn, hl, hx, hp⟩⟩ := setback_cases hb
    · rw [hn] at hn'
      cases hn'
    · rw [hn] at hsn
      have hne : s.generation ≠ n := bne_iff_ne.mp hsn.symm
      obtain ⟨s', hw', -, hen, ho⟩ := hr.kept
      cases Option.some.inj (hw.symm.trans hw')
      obtain ⟨y, hy, hle, -, hcl⟩ := ho.serving c n hl
      cases Option.some.inj (hx.symm.trans hy)
      have hclosed := hcl (Ne.symm hne)
      refine ⟨c, n, x, hl, hx, hp, by omega, fun hg => ?_, ?_, ?_⟩
      · -- the present group is open
        have hopen := (hen.open_ x.group).mpr ⟨hg, by simp [hl]⟩
        rw [hclosed] at hopen
        cases hopen
      · have := Roster.isClosed_eq w.roster x.group
        rw [hclosed] at this
        exact this
      · by_cases he : b.error = .groupClosed
        · exact .inl he
        · have hloop : w.ground.loop = some (.serving c n) := by
            rw [ground, hw]
            exact congrArg some hl
          obtain ⟨u, u', cs, ds, hu, hm, hd⟩ := h.decided hloop hx (by rw [hp]; rfl) he
          exact .inr ⟨u, u', cs, ds, hu, hm, hd⟩
  · rw [hn] at hn'
    cases hn'

/-- **What becomes of the failures that come back to the consume loop.** In every run of a supervisor,
whatever the order of its tasks and refreshes: a failure that comes back from the first join, or from
a session on a group that is still the present one, is shown to the operator once, counted once and
followed by a pause of the full delay. If the group has been replaced since the session began, the
loop goes on at once and nobody is told, whatever the failure was: that the group was closed, or a
failure that the session met before the group was replaced. Nothing else is counted. -/
theorem Struggle.setbacks_accounted (h : (empty.start settings).Struggle bs w) :
    ∃ s, w.supervisor = some s ∧ s.settings = settings ∧
      w.books.metrics.consumeErrors = (Setback.pressing bs).length ∧
      (Setback.shown bs).Sublist w.books.sink.errors.items ∧
      ∀ b v, w.setback? s = some b → w.step .loop = some v →
        (b.superseded = false → w.Heeds s b.error v) ∧
        (b.superseded = true → Disregards settings w s b.error v) := by
  have hr : Reachable settings w := h.reachable .start
  obtain ⟨s, hw, hset, -⟩ := hr.kept
  obtain ⟨hc, hs⟩ := h.counted .start rfl
  exact ⟨s, hw, hset, hc, hs, fun b v hb hv =>
    ⟨fun hn => hr.heeds hw hb hv hn, fun hn => h.disregards hw hb hv hn⟩⟩

/-- A consume call fails, and the loop pauses for ten milliseconds. -/
theorem Struggle.setbacks_accounted_once : ∃ (bs : List Setback) (w v : Relay) (s : Supervisor),
    (empty.start plainSettings).Struggle bs w ∧ w.supervisor = some s ∧
      w.setback? s = some ⟨.consume "injected consume failure", false⟩ ∧
      w.step .loop = some v ∧ w.Heeds s (.consume "injected consume failure") v ∧
      Setback.pressing bs = [] ∧ v.books.metrics.consumeErrors = 1 := by
  obtain ⟨⟨ms, w⟩, v, s, hw, hs, hb, hv, hc⟩ : ∃ x v s, (empty.start plainSettings).replay
      [.inl (.createTopic "t" 1), .inl (.script ⟨0, 0, 1, 0⟩), .inr .loop, .inr .loop, .inr .loop] =
        some x ∧ x.2.supervisor = some s ∧
      x.2.setback? s = some ⟨.consume "injected consume failure", false⟩ ∧
      x.2.step .loop = some v ∧ x.2.books.metrics.consumeErrors = 0 :=
    ⟨_, _, _, rfl, rfl, rfl, rfl, rfl⟩
  obtain ⟨bs, h⟩ := (Reachable.start.replay hw).struggle
  obtain ⟨s', hs', -, hcount, -, hall⟩ := Struggle.setbacks_accounted h
  cases Option.some.inj (hs.symm.trans hs')
  have hheeds := (hall _ v hb hv).1 rfl
  refine ⟨bs, w, v, s, h, hs, hb, hv, hheeds, List.length_eq_zero_iff.mp (hcount.symm.trans hc), ?_⟩
  rw [hheeds.counted, hc]

/-- **A failure of the broker that nobody is told of.** A claim fails and ends its session. While the
session is being torn down the topics change, and a new group is installed. So when the call comes
back with the failure of the claim, before the end, the loop takes it for that of the old group being
closed: it is not shown, not counted, and there is no pause. -/
theorem setback_swallowed : ∃ (bs cs : List Setback) (u w v : Relay) (x : ConsumeCall)
    (s : Supervisor), (empty.start plainSettings).Struggle bs u ∧ u.calls[0]? = some x ∧
      x.phase = .leaving (some (.consume "injected claim error")) ∧
      u.broker.isClosed x.group = false ∧ u.Struggle cs w ∧ w.supervisor = some s ∧
      w.setback? s = some ⟨.consume "injected claim error", true⟩ ∧ w.step .loop = some v ∧
      v.books.sink.errors.items = [] ∧ v.books.metrics.consumeErrors = 0 ∧
      v.supervisor.map Supervisor.loop = some .top := by
  obtain ⟨⟨ms, u⟩, a, b, w, v, x, s, hu, hx, hp, hg, ha, hb, hw, hs, hsb, hv, hi, hc, hl⟩ :
      ∃ y a b w v x s, (empty.start plainSettings).replay
        [.inl (.createTopic "t" 1), .inl (.script ⟨0, 0, 0, 1⟩), .inr .loop, .inr .loop, .inr .loop,
          .inr (.feeder 0 0), .inr (.claim 0 0), .inr (.claim 0 0), .inr .loop] = some y ∧
      y.2.calls[0]? = some x ∧ x.phase = .leaving (some (.consume "injected claim error")) ∧
      y.2.broker.isClosed x.group = false ∧
      ((y.2.apply (.createTopic "u" 1)).apply .refresh).step .loop = some a ∧
      a.step (.confirmer 0) = some b ∧ (b.step (.confirmer 0)).bind (step .loop) = some w ∧
      w.supervisor = some s ∧ w.setback? s = some ⟨.consume "injected claim error", true⟩ ∧
      w.step .loop = some v ∧ v.books.sink.errors.items = [] ∧
      v.books.metrics.consumeErrors = 0 ∧ v.supervisor.map Supervisor.loop = some .top :=
    ⟨_, _, _, _, _, _, _, rfl, rfl, rfl, rfl, rfl, rfl, rfl, rfl, rfl, rfl, rfl, rfl, rfl⟩
  obtain ⟨bs, h⟩ := (Reachable.start.replay hu).struggle
  obtain ⟨d, hd, hw⟩ := Option.bind_eq_some_iff.mp hw
  have hteardown := (((((Struggle.here (w := u)).event (.createTopic "u" 1)).event .refresh).move
    .loop ha).move (.confirmer 0) hb |>.move (.confirmer 0) hd).move .loop hw
  exact ⟨bs, _, u, w, v, x, s, h, hx, hp, hg, hteardown, hs, hsb, hv, hi, hc, hl⟩

end Relay
end Sluice
