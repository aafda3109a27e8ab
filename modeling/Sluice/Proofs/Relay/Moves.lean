import Sluice.Relay
/-!
# What a move of a relay can do

`Relay.step` tells the next move of a task. `Move` lists all moves there are, each with the condition
it is made under and what it leaves behind; the moves of a session's own tasks are told by the session.
What a task keeps is shown by going through its list.

* `FeederMove`, `CallMove`, `LoopMove`, `ForwarderMove`, `RefresherMove`, `CallerMove`: task by task.
* `move_of_step`: every step is one of the moves.
-/
namespace Sluice.Relay
variable {w v : Relay} {s : Supervisor}

/-! ## Feeders -/

/-- The moves of feeder `f` of session `h`, which fills the queue of claim `c`. -/
inductive FeederMove (w : Relay) (k i : Nat) (h : Hosted) (f : Feeder) (c : Claim) : Relay → Prop where
  /-- It begins with an injected failure, and ends. -/
  | fail : f.phase = .fresh → w.broker.takeClaimFault.1 = true →
      FeederMove w k i h f c ((({ w with broker := w.broker.takeClaimFault.2 }).feed k i
        (.failure (.consume "injected claim error"))).endFeeder k i)
  /-- It begins at the stored position. -/
  | begin : f.phase = .fresh → w.broker.takeClaimFault.1 = false →
      FeederMove w k i h f c (({ w with broker := w.broker.takeClaimFault.2 }).modifyFeeder k i fun f =>
        { f with
          first := startOffset w.books.store f.source
          next := startOffset w.books.store f.source
          phase := .feeding })
  /-- The session has been told to end. -/
  | stop : f.phase ≠ .fresh → f.phase ≠ .ended → h.session.cancelled = true →
      FeederMove w k i h f c (w.endFeeder k i)
  /-- The log has nothing more. -/
  | park : f.phase ≠ .fresh → f.phase ≠ .ended → h.session.cancelled = false →
      (w.broker.log f.source)[f.next]? = none → f.phase ≠ .parked →
      FeederMove w k i h f c (w.modifyFeeder k i fun f => { f with phase := .parked })
  /-- Nobody reads the queue any more. -/
  | desert {m : Message} : f.phase ≠ .fresh → f.phase ≠ .ended → h.session.cancelled = false →
      (w.broker.log f.source)[f.next]? = some m → c.hasEnded = true →
      FeederMove w k i h f c (w.endFeeder k i)
  /-- It puts the next message into the queue, even if the session has been told to end. -/
  | put {m : Message} : f.phase ≠ .fresh → f.phase ≠ .ended →
      (w.broker.log f.source)[f.next]? = some m → c.hasEnded = false → c.queue.backlog < queueLimit →
      FeederMove w k i h f c ((w.modifyFeeder k i fun f =>
        { f with next := f.next + 1, phase := .feeding }).feed k i (.message m))
  /-- The queue is full. -/
  | block {m : Message} : f.phase ≠ .fresh → f.phase ≠ .ended → h.session.cancelled = false →
      (w.broker.log f.source)[f.next]? = some m → c.hasEnded = false →
      queueLimit ≤ c.queue.backlog → f.phase ≠ .blocked →
      FeederMove w k i h f c (w.modifyFeeder k i fun f => { f with phase := .blocked })

theorem feederMove_of_step {k i : Nat} (hs : w.stepFeeder k i = some v) :
    ∃ h f c, w.sessions[k]? = some h ∧ h.feeders[i]? = some f ∧ h.session.claims[i]? = some c ∧
      FeederMove w k i h f c v := by
  unfold stepFeeder at hs
  split at hs
  · cases hs
  · next h hk =>
    split at hs
    · next f c hf hc =>
      refine ⟨h, f, c, hk, hf, hc, ?_⟩
      split at hs
      · next hp =>
        dsimp only at hs
        split at hs
        · next hn =>
          cases hs
          exact .fail hp hn
        · next hn =>
          cases hs
          exact .begin hp (Bool.eq_false_iff.mpr hn)
      · cases hs
      · next hp he =>
        split at hs
        · next hx =>
          cases hs
          exact .stop hp he hx
        · next hx =>
          rw [Bool.not_eq_true] at hx
          split at hs
          · next hm =>
            split at hs
            · cases hs
            · next hq =>
              cases hs
              exact .park hp he hx hm hq
          · next m hm =>
            split at hs
            · next hc =>
              cases hs
              exact .desert hp he hx hm hc
            · next hc =>
              rw [Bool.not_eq_true] at hc
              split at hs
              · next hb =>
                cases hs
                exact .put hp he hm hc hb
              · next hb =>
                split at hs
                · cases hs
                · next hq =>
                  cases hs
                  exact .block hp he hx hm hc (Nat.le_of_not_lt hb) hq
    · cases hs

/-- A straggler makes a move of its feeder, which has begun and could have ended instead. -/
theorem feederMove_of_straggler {k i : Nat} (hs : w.stepStraggler k i = some v) :
    ∃ h f c, w.sessions[k]? = some h ∧ h.feeders[i]? = some f ∧ h.session.claims[i]? = some c ∧
      FeederMove w k i h f c v ∧ f.phase ≠ .fresh ∧ w.stepFeeder k i = some (w.endFeeder k i) := by
  unfold stepStraggler at hs
  split at hs
  · cases hs
  · next h hk =>
    split at hs
    · next f c hf hc =>
      split at hs
      · cases hs
      · next hx =>
        simp only [Bool.or_eq_true, Bool.not_eq_true', beq_iff_eq, not_or, Bool.not_eq_false] at hx
        obtain ⟨⟨hx, hp⟩, he⟩ := hx
        split at hs
        · cases hs
        · next m hm =>
          split at hs
          · next hb =>
            simp only [Bool.and_eq_true, Bool.not_eq_true', decide_eq_true_eq] at hb
            cases hs
            refine ⟨h, f, c, hk, hf, hc, .put hp he hm hb.1 hb.2, hp, ?_⟩
            cases hq : f.phase <;> simp_all [stepFeeder]
          · cases hs
    · cases hs

/-- A straggler cannot move when its feeder cannot. -/
theorem stepStraggler_eq_none {k i : Nat} (h : w.stepFeeder k i = none) :
    w.stepStraggler k i = none := by
  refine Option.eq_none_iff_forall_ne_some.mpr fun v hs => ?_
  obtain ⟨_, _, _, _, _, _, _, _, hstep⟩ := feederMove_of_straggler hs
  rw [h] at hstep
  cases hstep

/-! ## Calls -/

/-- The relay after call `c` of `x` has set its session up as `s`. -/
def served (w : Relay) (c : Nat) (x : ConsumeCall) (s : Session) : Relay :=
  let w := { w with
    books := w.books.count .session, broker := w.broker.beginConsume.2, listed := w.listed ++ [c] }
  let w := w.modifyHosted x.session fun h => { h with session := s, token := x.token, host := some c }
  ((w.wake (.confirmer x.session)).assign x.session (x.topics.flatMap w.broker.partitions)).setCall c
    .serving

/-- The moves of call `c`, which is `x`. -/
inductive CallMove (w : Relay) (c : Nat) (x : ConsumeCall) : Relay → Prop where
  /-- The group has been closed before the call began. -/
  | refuse : x.phase = .fresh → w.broker.isClosed x.group = true →
      CallMove w c x (w.endCall c (some .groupClosed))
  /-- A failure was injected, or there is no such session. -/
  | fail (failure : Option RelayError) : x.phase = .fresh → w.broker.isClosed x.group = false →
      w.broker.beginConsume.1 = false ∨ w.sessions[x.session]? = none →
      CallMove w c x (({ w with broker := w.broker.beginConsume.2 }).endCall c failure)
  /-- The session has been set up before. -/
  | unready {h : Hosted} (e : RelayError) : x.phase = .fresh → w.broker.isClosed x.group = false →
      w.broker.beginConsume.1 = true → w.sessions[x.session]? = some h → h.session.stage ≠ .idle →
      CallMove w c x (((({ w with broker := w.broker.beginConsume.2 } : Relay).enlist c).unlist
        c).endCall c (some e))
  /-- The session is set up. -/
  | begin {h : Hosted} : x.phase = .fresh → w.broker.isClosed x.group = false →
      w.broker.beginConsume.1 = true → w.sessions[x.session]? = some h → h.session.stage = .idle →
      CallMove w c x (w.served c x
        { h.session with stage := .active, confirmer := .asking, cancelled := w.isCancelled x.token })
  /-- The group has been closed, or the session has been told to end. -/
  | leave {h : Hosted} {failure : Option RelayError} : x.phase = .serving →
      w.sessions[x.session]? = some h →
      (w.broker.isClosed x.group = true ∧ failure = some .groupClosed) ∨
        (w.broker.isClosed x.group = false ∧ h.session.cancelled = true ∧ failure = none) →
      CallMove w c x (w.leaveCall c x failure)
  /-- A claim has ended without a failure. -/
  | look {h : Hosted} {i : Nat} {rest : List Nat} : x.phase = .serving →
      w.sessions[x.session]? = some h → w.broker.isClosed x.group = false →
      h.session.cancelled = false → h.ended = i :: rest →
      h.session.claims[i]?.bind Claim.failure? = none →
      CallMove w c x (w.modifyHosted x.session fun h => { h with ended := rest })
  /-- A claim has ended with a failure. -/
  | abort {h : Hosted} {i : Nat} {rest : List Nat} {e : RelayError} : x.phase = .serving →
      w.sessions[x.session]? = some h → w.broker.isClosed x.group = false →
      h.session.cancelled = false → h.ended = i :: rest →
      h.session.claims[i]?.bind Claim.failure? = some e →
      CallMove w c x ((w.modifyHosted x.session fun h => { h with ended := rest }).leaveCall c x (some e))
  /-- All feeders and claims have ended, and the session can be cleaned up. -/
  | drain {h : Hosted} {failure : Option RelayError} : x.phase = .leaving failure →
      w.sessions[x.session]? = some h → (∀ f ∈ h.feeders, f.phase = .ended) →
      (∀ c ∈ h.session.claims, c.hasEnded = true) → h.session.stage = .active →
      CallMove w c x (((w.modifyHosted x.session fun y =>
        { y with session := { h.session with stage := .draining } }).wake
          (.confirmer x.session)).setCall c (.cleaning failure))
  /-- All feeders and claims have ended, and the session cannot be cleaned up. -/
  | giveUp {h : Hosted} {failure : Option RelayError} : x.phase = .leaving failure →
      w.sessions[x.session]? = some h → (∀ f ∈ h.feeders, f.phase = .ended) →
      (∀ c ∈ h.session.claims, c.hasEnded = true) → h.session.stage ≠ .active →
      CallMove w c x ((w.unlist c).endCall c
        (some (failure.getD (Session.misuse "cleanup" h.session.stage))))
  /-- The session has been cleaned up. -/
  | close {h : Hosted} {failure : Option RelayError} : x.phase = .cleaning failure →
      w.sessions[x.session]? = some h → h.session.stage = .draining → h.session.confirmer = .ended →
      CallMove w c x (((w.modifyHosted x.session fun y =>
        { y with session := { h.session with stage := .closed } }).unlist c).endCall c failure)

/-- A call that has ended does not move. -/
theorem CallMove.unended {c : Nat} {x : ConsumeCall} (hm : w.CallMove c x v)
    (failure : Option RelayError) : x.phase ≠ .ended failure := by
  intro hp
  cases hm with
  | refuse hq | fail _ hq | unready _ hq | begin hq | leave hq | look hq | abort hq | drain hq | giveUp hq
  | close hq =>
    rw [hp] at hq
    cases hq

theorem callMove_of_beginCall {c : Nat} {x : ConsumeCall} (hp : x.phase = .fresh)
    (hg : w.broker.isClosed x.group = false) : CallMove w c x (w.beginCall c x) := by
  unfold beginCall
  dsimp only
  split
  · next hb => exact .fail _ hp hg (.inl (by simpa using hb))
  · next hb =>
    split
    · next hk => exact .fail _ hp hg (.inr hk)
    · next h hk =>
      by_cases hi : h.session.stage = .idle
      · simp only [Session.setup, if_pos hi]
        exact .begin hp hg (by simpa using hb) hk hi
      · simp only [Session.setup, if_neg hi]
        exact .unready _ hp hg (by simpa using hb) hk hi

/-- A move of a call. -/
theorem callMove_of_step {c : Nat} (hs : w.stepConsume c = some v) :
    ∃ x, w.calls[c]? = some x ∧ CallMove w c x v := by
  unfold stepConsume at hs
  split at hs
  · cases hs
  · next x hx =>
    refine ⟨x, hx, ?_⟩
    split at hs
    · next hp =>
      split at hs
      · next hg =>
        cases hs
        exact .refuse hp hg
      · next hg =>
        cases hs
        exact callMove_of_beginCall hp (Bool.eq_false_iff.mpr hg)
    · next hp =>
      split at hs
      · cases hs
      · next h hk =>
        split at hs
        · next hg =>
          cases hs
          exact .leave hp hk (.inl ⟨hg, rfl⟩)
        · next hg =>
          rw [Bool.not_eq_true] at hg
          split at hs
          · next hc =>
            cases hs
            exact .leave hp hk (.inr ⟨hg, hc, rfl⟩)
          · next hc =>
            rw [Bool.not_eq_true] at hc
            split at hs
            · cases hs
            · next i rest he =>
              dsimp only at hs
              split at hs
              · next hf =>
                cases hs
                exact .look hp hk hg hc he hf
              · next hf =>
                cases hs
                exact .abort hp hk hg hc he hf
    · next failure hp =>
      split at hs
      · cases hs
      · next h hk =>
        split at hs
        · next hall =>
          obtain ⟨hf, hc⟩ := by simpa using hall
          unfold Session.drain at hs
          split at hs
          · next hd =>
            split at hd
            · cases hd
            · next ha =>
              cases hd
              cases hs
              exact .giveUp hp hk hf hc ha
          · next hd =>
            split at hd
            · next ha =>
              cases hd
              cases hs
              exact .drain hp hk hf hc ha
            · cases hd
        · cases hs
    · next failure hp =>
      obtain ⟨s, hd, rfl⟩ := Option.map_eq_some_iff.mp hs
      obtain ⟨h, hk, hc⟩ := Option.bind_eq_some_iff.mp hd
      unfold Session.close? at hc
      split at hc
      · next ho =>
        cases hc
        exact .close hp hk ho.1 ho.2
      · cases hc
    · cases hs

/-! ## The consume loop -/

/-- The moves of the consume loop. -/
inductive LoopMove (w : Relay) (s : Supervisor) : Relay → Prop where
  /-- The loop serves no session, and ends. -/
  | stop : w.isStopped = true → (s.loop = .top ∨ (∃ moment, s.loop = .pausing moment) ∨
      ∃ c n x e, s.loop = .serving c n ∧ w.calls[c]? = some x ∧ x.phase = .ended (some e)) →
      LoopMove w s (w.endLoop s)
  /-- The first group is joined. -/
  | join {b : Bool} {u : Relay} : s.loop = .top → w.isStopped = false → s.group = none →
      w.refresh s = (.ok b, u) → LoopMove w s u
  /-- The first group cannot be joined. -/
  | joinFails {e : RelayError} {u : Relay} : s.loop = .top → w.isStopped = false → s.group = none →
      w.refresh s = (.error e, u) → LoopMove w s (u.retry s e)
  /-- There are no topics. -/
  | idle {g : Nat} : s.loop = .top → w.isStopped = false → s.group = some g → s.topics = [] →
      LoopMove w s (w.pause s)
  /-- A session is about to be served. -/
  | serve {g : Nat} : s.loop = .top → w.isStopped = false → s.group = some g → s.topics ≠ [] →
      LoopMove w s (w.serve s g)
  /-- A pause is over. -/
  | resume {moment : Nat} : s.loop = .pausing moment → w.isStopped = false → moment ≤ w.now →
      LoopMove w s ((w.clearTimer .loop).setLoop .top)
  /-- The call that the loop runs moves. -/
  | call {c n : Nat} {x : ConsumeCall} {u : Relay} : s.loop = .serving c n → w.calls[c]? = some x →
      CallMove w c x u → LoopMove w s u
  /-- The session is over, or a failure does not matter because there is a new group. -/
  | finish {c n : Nat} {x : ConsumeCall} {failure : Option RelayError} : s.loop = .serving c n →
      w.calls[c]? = some x → x.phase = .ended failure → failure = none ∨ s.generation ≠ n →
      LoopMove w s (w.setLoop .top)
  /-- The session has ended with a failure. -/
  | retry {c n : Nat} {x : ConsumeCall} {e : RelayError} : s.loop = .serving c n →
      w.calls[c]? = some x → x.phase = .ended (some e) → s.generation = n → w.isStopped = false →
      LoopMove w s (w.retry s e)

theorem loopMove_of_step (hs : w.stepLoop s = some v) : LoopMove w s v := by
  unfold stepLoop at hs
  split at hs
  · next hl =>
    split at hs
    · next hst =>
      cases hs
      exact .stop hst (.inl hl)
    · next hst =>
      rw [Bool.not_eq_true] at hst
      split at hs
      · next hg =>
        split at hs
        · next hr =>
          cases hs
          exact .join hl hst hg hr
        · next hr =>
          cases hs
          exact .joinFails hl hst hg hr
      · next g hg =>
        split at hs
        · next ht =>
          cases hs
          exact .idle hl hst hg (List.isEmpty_iff.mp ht)
        · next ht =>
          cases hs
          exact .serve hl hst hg (mt List.isEmpty_iff.mpr ht)
  · next moment hl =>
    split at hs
    · next hst =>
      cases hs
      exact .stop hst (.inr (.inl ⟨moment, hl⟩))
    · next hst =>
      split at hs
      · next hm =>
        cases hs
        exact .resume hl (Bool.eq_false_iff.mpr hst) hm
      · cases hs
  · next c n hl =>
    split at hs
    · next hc =>
      obtain ⟨x, hx, hp⟩ := Option.map_eq_some_iff.mp hc
      cases hs
      exact .finish hl hx hp (.inl rfl)
    · next e hc =>
      obtain ⟨x, hx, hp⟩ := Option.map_eq_some_iff.mp hc
      split at hs
      · next hn =>
        cases hs
        exact .finish hl hx hp (.inr hn)
      · next hn =>
        split at hs
        · next hst =>
          cases hs
          exact .stop hst (.inr (.inr ⟨c, n, x, e, hl, hx, hp⟩))
        · next hst =>
          cases hs
          exact .retry hl hx hp (Decidable.not_not.mp hn) (Bool.eq_false_iff.mpr hst)
    · obtain ⟨x, hx, hm⟩ := callMove_of_step hs
      exact .call hl hx hm
  · cases hs
  · cases hs

/-! ## The forwarder and the refresher -/

/-- The moves of the forwarder. -/
inductive ForwarderMove (w : Relay) (s : Supervisor) : Relay → Prop where
  | stop {seen : Nat} {reading : Option Nat} : s.forwarder = .watching seen reading →
      w.isStopped = true → ForwarderMove w s (w.endForwarder reading)
  /-- It turns to a new group. -/
  | follow {seen : Nat} {reading : Option Nat} : s.forwarder = .watching seen reading →
      w.isStopped = false → s.generation ≠ seen → ForwarderMove w s (w.follow s reading)
  /-- It passes on the first error of the group that it reads. -/
  | forward {g : Nat} {e : RelayError} {rest : List RelayError} :
      s.forwarder = .watching s.generation (some g) → w.isStopped = false →
      (w.broker.groups[g]?.map Group.errors).getD [] = e :: rest →
      ForwarderMove w s
        ({ w with broker := w.broker.modifyGroup g fun x => { x with errors := rest } }.report e)

theorem forwarderMove_of_step (hs : w.stepForwarder s = some v) : ForwarderMove w s v := by
  unfold stepForwarder at hs
  split at hs
  · cases hs
  · next seen reading hf =>
    split at hs
    · next hst =>
      cases hs
      exact .stop hf hst
    · next hst =>
      rw [Bool.not_eq_true] at hst
      split at hs
      · next hg =>
        cases hs
        exact .follow hf hst hg
      · next hg =>
        cases Decidable.not_not.mp hg
        split at hs
        · cases hs
        · split at hs
          · cases hs
          · next he =>
            cases hs
            exact .forward hf hst he

/-- The moves of the refresher. -/
inductive RefresherMove (w : Relay) (s : Supervisor) : Relay → Prop where
  | stop {due : Nat} : s.refresher = .waiting due → w.isStopped = true →
      RefresherMove w s (((w.clearTimer .refresher).modifySupervisor fun s =>
        { s with refresher := .ended }).wakeCallers)
  /-- It refreshes the topics, and waits for its next moment. -/
  | refresh {due : Nat} (next : Nat) {b : Bool} {u : Relay} : s.refresher = .waiting due →
      w.isStopped = false → tickOf due ≤ w.now →
      (w.clearTimer .refresher).refresh s = (.ok b, u) →
      RefresherMove w s ((u.modifySupervisor fun s =>
        { s with refresher := .waiting next }).setTimer .refresher (tickOf next))
  /-- The topics cannot be refreshed now. -/
  | refreshFails {due : Nat} (next : Nat) {e : RelayError} {u : Relay} : s.refresher = .waiting due →
      w.isStopped = false → tickOf due ≤ w.now →
      (w.clearTimer .refresher).refresh s = (.error e, u) →
      RefresherMove w s (((u.report e).modifySupervisor fun s =>
        { s with refresher := .waiting next }).setTimer .refresher (tickOf next))

theorem refresherMove_of_step (hs : w.stepRefresher s = some v) : RefresherMove w s v := by
  unfold stepRefresher at hs
  split at hs
  · cases hs
  · next due hre =>
    split at hs
    · next hst =>
      cases hs
      exact .stop hre hst
    · next hst =>
      rw [Bool.not_eq_true] at hst
      split at hs
      · next hd =>
        dsimp only at hs
        cases hs
        split
        · next hr => exact .refresh _ hre hst hd hr
        · next hr => exact .refreshFails _ hre hst hd hr
      · cases hs

/-! ## Callers -/

/-- The moves of caller `i`. -/
inductive CallerMove (w : Relay) (s : Supervisor) (i : Nat) : Relay → Prop where
  /-- There will be no group. -/
  | refuse {p : Caller.Phase} : w.callers[i]? = some ⟨.connected, p⟩ → p = .fresh ∨ p = .waiting →
      w.isStopped = true → CallerMove w s i (w.answer i false)
  /-- There is a group. -/
  | grant {p : Caller.Phase} : w.callers[i]? = some ⟨.connected, p⟩ → p = .fresh ∨ p = .waiting →
      w.isStopped = false → 0 < s.generation → CallerMove w s i (w.answer i true)
  /-- There is no group yet. -/
  | wait : w.callers[i]? = some ⟨.connected, .fresh⟩ → w.isStopped = false → s.generation = 0 →
      CallerMove w s i (w.setCaller i .waiting)
  | finish : w.callers[i]? = some ⟨.finished, .fresh⟩ → CallerMove w s i (w.takeOver s i)
  | shutdown : w.callers[i]? = some ⟨.shutdown, .fresh⟩ →
      CallerMove w s i ((w.cancel rootToken).takeOver s i)
  /-- The tasks have ended. -/
  | done {kind : Caller.Kind} : w.callers[i]? = some ⟨kind, .waiting⟩ → kind ≠ .connected →
      s.hasEnded = true → CallerMove w s i (w.answer i true)

theorem callerMove_of_step {i : Nat} (hs : w.stepCaller s i = some v) : CallerMove w s i v := by
  unfold stepCaller at hs
  split at hs
  · cases hs
  · cases hs
  · cases hs
  · next p hn hn' hc =>
    have hp : p = .fresh ∨ p = .waiting := by
      cases p with
      | fresh => exact .inl rfl
      | waiting => exact .inr rfl
      | done b => exact (hn b rfl).elim
      | abandoned => exact (hn' rfl).elim
    split at hs
    · next hst =>
      cases hs
      exact .refuse hc hp hst
    · next hst =>
      rw [Bool.not_eq_true] at hst
      split at hs
      · next hg =>
        cases hs
        exact .grant hc hp hst hg
      · next hg =>
        split at hs
        · cases hs
        · next hw =>
          cases hs
          cases hp.resolve_right hw
          exact .wait hc hst (Nat.eq_zero_of_not_pos hg)
  · next hc =>
    cases hs
    exact .finish hc
  · next hc =>
    cases hs
    exact .shutdown hc
  · next kind hn hc =>
    split at hs
    · next he =>
      cases hs
      exact .done hc hn he
    · cases hs

/-! ## All tasks -/

/-- The moves of all tasks. -/
inductive Move (w : Relay) : Task → Relay → Prop where
  | claim {k i : Nat} {v : Relay} : w.stepSession k (.claim i) = some v → Move w (.claim k i) v
  | confirmer {k : Nat} {v : Relay} : w.stepSession k .confirmer = some v → Move w (.confirmer k) v
  | feeder {k i : Nat} {h : Hosted} {f : Feeder} {c : Claim} {v : Relay} : w.sessions[k]? = some h →
      h.feeders[i]? = some f → h.session.claims[i]? = some c → FeederMove w k i h f c v →
      Move w (.feeder k i) v
  | straggler {k i : Nat} {h : Hosted} {f : Feeder} {c : Claim} {v : Relay} :
      w.sessions[k]? = some h → h.feeders[i]? = some f → h.session.claims[i]? = some c →
      FeederMove w k i h f c v → Move w (.straggler k i) v
  /-- A call that the consume loop does not run. -/
  | call {c : Nat} {x : ConsumeCall} {v : Relay} : w.loopCall ≠ some c → w.calls[c]? = some x →
      CallMove w c x v → Move w (.consume c) v
  | loop {s : Supervisor} {v : Relay} : w.supervisor = some s → LoopMove w s v → Move w .loop v
  | forwarder {s : Supervisor} {v : Relay} : w.supervisor = some s → ForwarderMove w s v →
      Move w .forwarder v
  | refresher {s : Supervisor} {v : Relay} : w.supervisor = some s → RefresherMove w s v →
      Move w .refresher v
  | caller {s : Supervisor} {i : Nat} {v : Relay} : w.supervisor = some s → CallerMove w s i v →
      Move w (.caller i) v

/-- Every step is one of the moves. -/
theorem move_of_step {t : Task} (hs : w.step t = some v) : Move w t v := by
  unfold step at hs
  split at hs
  · exact .claim hs
  · exact .confirmer hs
  · obtain ⟨h, f, c, hk, hf, hc, hm⟩ := feederMove_of_step hs
    exact .feeder hk hf hc hm
  · obtain ⟨h, f, c, hk, hf, hc, hm, -⟩ := feederMove_of_straggler hs
    exact .straggler hk hf hc hm
  · split at hs
    · cases hs
    · next hn =>
      obtain ⟨x, hx, hm⟩ := callMove_of_step hs
      exact .call hn hx hm
  · next hw => exact .loop hw (loopMove_of_step hs)
  · next hw => exact .forwarder hw (forwarderMove_of_step hs)
  · next hw => exact .refresher hw (refresherMove_of_step hs)
  · next hw => exact .caller hw (callerMove_of_step hs)
  · cases hs

end Sluice.Relay
