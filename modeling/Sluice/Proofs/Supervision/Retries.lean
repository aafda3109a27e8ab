import Sluice.Proofs.Supervision.Outages
/-!
# Trying again

In an outage the consume loop goes through few stages: it tries, fails, tells of the failure, pauses,
and tries again. Until the first session is set up nobody else moves, but for the forwarder, which
turns to the first group once. So the stage, with the number of failures so far, tells all there is
to know of the relay.

* `Stage`, `At`: the stages, and the relay at each.
* `At.others`: what the other tasks can do.
* `At.fails_to_join`, `At.joins`, `At.serves`, `At.refused_by`, `At.begins`, `At.tells`, `At.waits`,
  `At.resumes`: the moves of the loop, stage by stage.
-/
namespace Sluice.Outage
open Relay

variable (o : Outage)

/-! ## Stages -/

/-- How far the consume loop has come, after `n` failures. -/
inductive Stage where
  /-- It looks at the membership. -/
  | top (n : Nat) (joined : Bool)
  /-- It is about to begin a call. -/
  | calling (n : Nat)
  /-- The call has failed, and nobody has been told. -/
  | refused (n : Nat)
  /-- It waits until it is time to try again. -/
  | pausing (n : Nat)

/-- How many failures have been shown. -/
def Stage.shown : Stage → Nat
  | .top n _ | .calling n | .refused n | .pausing n => n

/-- Whether there is a group. A pause after the last failure of a connection is still before it. -/
def Stage.joined : Stage → Bool
  | .top _ joined => joined
  | .pausing n => o.beforeJoin < n
  | _ => true

/-- How many moves of the loop are left at most. -/
def Stage.rank : Stage → Nat
  | .pausing n => 5 * (o.failures - n) + 4
  | .top n false => 5 * (o.failures - n) + 3
  | .top n true => 5 * (o.failures - n) + 2
  | .calling n => 5 * (o.failures - n) + 1
  | .refused n => 5 * (o.failures - n)

/-- The supervisor before the first group or with it. -/
def overseer (joined : Bool) (loop : Supervisor.Loop) (forwarder : Supervisor.Forwarder) :
    Supervisor :=
  ⟨o.settings, if joined then o.topics else [], if joined then some 0 else none, joined.toNat, loop,
    forwarder, .waiting o.due, true, false⟩

@[simp] theorem overseer_loop (joined : Bool) (loop : Supervisor.Loop) (f : Supervisor.Forwarder) :
    (o.overseer joined loop f).loop = loop := rfl

@[simp] theorem overseer_group (joined : Bool) (loop : Supervisor.Loop)
    (f : Supervisor.Forwarder) :
    (o.overseer joined loop f).group = if joined then some 0 else none := rfl

@[simp] theorem overseer_topics (joined : Bool) (loop : Supervisor.Loop)
    (f : Supervisor.Forwarder) :
    (o.overseer joined loop f).topics = if joined then o.topics else [] := rfl

@[simp] theorem overseer_generation (joined : Bool) (loop : Supervisor.Loop)
    (f : Supervisor.Forwarder) : (o.overseer joined loop f).generation = joined.toNat := rfl

/-- A session that nobody has set up. -/
def unused : Hosted :=
  ⟨o.settings.rules, Session.ofCapacity o.settings.maxUndelivered, [], [], rootToken, none⟩

/-- The relay while the loop still tries, after `m` failures of which `n` have been shown. `loop` and
`forwarder` are what these two tasks do. -/
structure Trying (m n : Nat) (joined : Bool) (loop : Supervisor.Loop)
    (forwarder : Supervisor.Forwarder) (w : Relay) : Prop where
  supervisor : w.supervisor = some (o.overseer joined loop forwarder)
  /-- The forwarder has not seen the first group, or reads its errors. -/
  forwarder : forwarder = .watching 0 none ∨ joined = true ∧ ∃ r, forwarder = .watching 1 r
  broker : o.Broke m joined w.broker
  books : w.books = o.books n
  few : n ≤ o.failures
  /-- No session has been set up. -/
  unused : ∀ h ∈ w.sessions, h = o.unused
  /-- Only the loop may have a call that has not ended. -/
  callsEnded : ∀ c x, w.calls[c]? = some x → (∃ f, x.phase = .ended f) ∨ ∃ g, loop = .serving c g
  callers : w.callers = []
  goesOn : w.cancelled = []
  early : w.now ≤ o.moment n

/-- The timer of the refresher. -/
def refreshTimer : Nat × Task := (tickOf o.due, .refresher)

/-- What there is when the loop has come to a stage. -/
inductive At : Stage → Supervisor.Forwarder → Relay → Prop where
  | top {n : Nat} {joined : Bool} {f : Supervisor.Forwarder} {w : Relay} :
      o.Trying n n joined .top f w → (joined = true → o.beforeJoin ≤ n) →
      (joined = false → n ≤ o.beforeJoin) → w.now = o.moment n → w.timers = [o.refreshTimer] →
      At (.top n joined) f w
  | calling {n c : Nat} {x : ConsumeCall} {f : Supervisor.Forwarder} {w : Relay} :
      o.Trying n n true (.serving c 1) f w → o.beforeJoin ≤ n → w.now = o.moment n →
      w.timers = [o.refreshTimer] → w.calls[c]? = some x → x.phase = .fresh → x.group = 0 →
      w.sessions[x.session]? = some o.unused → At (.calling n) f w
  | refused {n c : Nat} {x : ConsumeCall} {f : Supervisor.Forwarder} {w : Relay} :
      o.Trying (n + 1) n true (.serving c 1) f w → o.beforeJoin ≤ n → n < o.failures →
      w.now = o.moment n → w.timers = [o.refreshTimer] → w.calls[c]? = some x →
      x.phase = .ended (some (.consume "injected consume failure")) → At (.refused n) f w
  | pausing {n : Nat} {f : Supervisor.Forwarder} {w : Relay} :
      o.Trying n n (o.beforeJoin < n) (.pausing (o.moment n)) f w → o.moment n ≤ w.now + o.delay →
      w.timers = o.refreshTimer :: (if w.now < o.moment n then [(o.moment n, .loop)] else []) →
      At (.pausing n) f w

variable {o} {m n : Nat} {joined : Bool} {loop : Supervisor.Loop} {f : Supervisor.Forwarder}
  {w v : Relay} {st : Stage}

/-- At a stage the failures shown are in time, and no more than there are. -/
theorem At.shown (h : o.At st f w) : ∃ m loop, o.Trying m st.shown (st.joined o) loop f w ∧
    o.moment st.shown ≤ w.now + o.delay := by
  cases h with
  | top htry _ _ hnow | calling htry _ hnow | refused htry _ _ hnow =>
    exact ⟨_, _, htry, by rw [hnow]; exact Nat.le_add_right ..⟩
  | pausing htry hlate => exact ⟨_, _, htry, hlate⟩

theorem At.few (h : o.At st f w) : st.shown ≤ o.failures := by
  obtain ⟨m, loop, htry, -⟩ := h.shown
  exact htry.few

/-! ## The other tasks -/

theorem Trying.notStopped (h : o.Trying m n joined loop f w) : w.isStopped = false := by
  unfold isStopped isCancelled
  rw [h.goesOn]
  rfl

/-- When the loop has no call all calls have ended. -/
theorem Trying.ended (h : o.Trying m n joined loop f w) (hl : ∀ c g, loop ≠ .serving c g) {c : Nat}
    {x : ConsumeCall} (hx : w.calls[c]? = some x) : ∃ failure, x.phase = .ended failure := by
  rcases h.callsEnded c x hx with hp | ⟨g, hg⟩
  · exact hp
  · exact absurd hg (hl c g)

/-- The tasks of a session that has not been set up do not move. -/
theorem stepSession_unused (h : ∀ x ∈ w.sessions, x = o.unused) (k : Nat) (t : Session.Task) :
    w.stepSession k t = none := by
  unfold stepSession
  split
  · rfl
  · next x hk =>
    cases h x (List.mem_of_getElem? hk)
    cases t <;> rfl

/-- Besides the loop only the forwarder can move, and only to turn to the first group. -/
theorem Trying.others (h : o.Trying m n joined loop f w) {t : Task} (ht : t ≠ .loop)
    (hs : w.step t = some v) : t = .forwarder ∧ joined = true ∧ f = .watching 0 none ∧
      v = w.follow (o.overseer joined loop f) none := by
  cases move_of_step hs with
  | claim hs | confirmer hs =>
    rw [stepSession_unused h.unused] at hs
    cases hs
  | feeder hk hf | straggler hk hf =>
    cases h.unused _ (List.mem_of_getElem? hk)
    cases hf
  | call hn hx hm =>
    rcases h.callsEnded _ _ hx with ⟨failure, hp⟩ | ⟨g, rfl⟩
    · exact absurd hp (hm.unended failure)
    · refine absurd ?_ hn
      unfold loopCall
      rw [h.supervisor]
      rfl
  | loop => exact absurd rfl ht
  | forwarder hw hm =>
    cases Option.some.inj (h.supervisor.symm.trans hw)
    cases hm with
    | stop _ hst => exact absurd hst (by simp [h.notStopped])
    | follow hf _ hg =>
      rcases h.forwarder with rfl | ⟨rfl, r, rfl⟩
      · cases hf
        cases joined with
        | false => exact absurd rfl hg
        | true => exact ⟨rfl, rfl, rfl, rfl⟩
      · cases hf
        exact absurd rfl hg
    | @forward g e rest _ _ he =>
      obtain ⟨stream, hgroups⟩ := h.broker.groups
      rw [hgroups] at he
      cases joined <;> cases g <;> cases he
  | refresher hw hm =>
    cases Option.some.inj (h.supervisor.symm.trans hw)
    have hearly : w.now < tickOf o.due := h.early.trans_lt (lt_tickOf_due h.few)
    cases hm with
    | stop _ hst => exact absurd hst (by simp [h.notStopped])
    | refresh _ hd _ hle | refreshFails _ hd _ hle =>
      cases hd
      exact absurd hearly (Nat.not_lt.mpr hle)
  | caller hw hm =>
    have hnone : ∀ {i : Nat} {x : Caller}, w.callers[i]? ≠ some x := fun hx => by
      rw [h.callers] at hx
      cases hx
    cases hm with
    | refuse hx | grant hx | wait hx | finish hx | shutdown hx | done hx => exact absurd hx hnone

/-- The forwarder has turned to the first group. -/
theorem Trying.follow (h : o.Trying m n true loop (.watching 0 none) w) :
    ∃ r, o.Trying m n true loop (.watching 1 r)
      (w.follow (o.overseer true loop (.watching 0 none)) none) := by
  refine ⟨if (w.broker.takeStream 0).1 then some 0 else none, { h with
    broker := h.broker.takeStream
    supervisor := ?_
    forwarder := .inr ⟨rfl, _, rfl⟩ }⟩
  show w.supervisor.map _ = _
  rw [h.supervisor]
  rfl

/-- A move of another task leaves the loop where it is, and the forwarder has one move less. -/
theorem At.others (h : o.At st f w) {t : Task} (ht : t ≠ .loop) (hs : w.step t = some v) :
    st.joined o = true ∧ f = .watching 0 none ∧ v.now = w.now ∧
      ∃ r, o.At st (.watching 1 r) v := by
  cases h with
  | top htry hj hn hnow htimers =>
    obtain ⟨-, rfl, rfl, rfl⟩ := htry.others ht hs
    obtain ⟨r, hr⟩ := htry.follow
    exact ⟨rfl, rfl, rfl, r, .top hr hj hn hnow htimers⟩
  | calling htry hj hnow htimers hx hp hg hk =>
    obtain ⟨-, -, rfl, rfl⟩ := htry.others ht hs
    obtain ⟨r, hr⟩ := htry.follow
    exact ⟨rfl, rfl, rfl, r, .calling hr hj hnow htimers hx hp hg hk⟩
  | refused htry hj hlt hnow htimers hx hp =>
    obtain ⟨-, -, rfl, rfl⟩ := htry.others ht hs
    obtain ⟨r, hr⟩ := htry.follow
    exact ⟨rfl, rfl, rfl, r, .refused hr hj hlt hnow htimers hx hp⟩
  | pausing htry hlate htimers =>
    obtain ⟨-, hj, rfl, rfl⟩ := htry.others ht hs
    rw [hj] at htry
    obtain ⟨r, hr⟩ := htry.follow
    rw [← hj] at hr
    exact ⟨hj, rfl, rfl, r, .pausing hr hlate htimers⟩

/-! ## The consume loop -/

theorem Trying.step_loop (h : o.Trying m n joined loop f w) :
    w.step .loop = w.stepLoop (o.overseer joined loop f) := by
  simp only [step, h.supervisor]

theorem Trying.setLoop (h : o.Trying m n joined loop f w) (p : Supervisor.Loop) :
    (w.setLoop p).supervisor = some (o.overseer joined p f) := by
  show w.supervisor.map _ = _
  rw [h.supervisor]
  rfl

/-- A pause of whole milliseconds ends after as many. -/
theorem pauseEnd_ofMillis (w : Relay) (d : Nat) : w.pauseEnd (.ofMillis d) = w.now + d := by
  show (w.now * 1000000 + d * 1000000 + 999999) / 1000000 = _
  omega

/-- The loop counts and shows a failure and pauses. -/
theorem Trying.retry {e : RelayError} (h : o.Trying (n + 1) n joined loop f w)
    (hover : ∀ (c : Nat) (x : ConsumeCall), w.calls[c]? = some x → ∃ g, x.phase = .ended g)
    (he : o.errors[n]? = some e) (hj : joined = decide (o.beforeJoin < n + 1))
    (hnow : w.now = o.moment n) (htimers : w.timers = [o.refreshTimer]) :
    o.At (.pausing (n + 1)) f (w.retry (o.overseer joined loop f) e) := by
  have hend : (({ w with books := w.books.count .consumeError } : Relay).report e).pauseEnd
      (o.overseer joined loop f).settings.reconnectDelay = o.moment (n + 1) := by
    show w.pauseEnd o.settings.reconnectDelay = _
    rw [o.reconnectDelay, pauseEnd_ofMillis, hnow, moment_succ]
  have hlater : w.now < o.moment (n + 1) := by
    have := o.positive
    rw [hnow, moment_succ]
    omega
  unfold Relay.retry pause
  dsimp only
  rw [hend]
  subst hj
  refine .pausing { h with
    supervisor := h.setLoop _
    books := ?_
    few := ?_
    callsEnded := fun c x hx => .inl (hover c x hx)
    early := hlater.le } ?_ ?_
  · show (w.books.count .consumeError).report e = _
    rw [h.books, books_succ he]
  · rw [← length_errors]
    exact (List.getElem?_eq_some_iff.mp he).1
  · show o.moment (n + 1) ≤ w.now + o.delay
    rw [hnow, moment_succ]
  · show w.timers ++ _ = _
    rw [htimers]
    exact congrArg (o.refreshTimer :: ·) (if_pos hlater).symm

/-- The first group cannot be joined: the loop takes the next failure for it. -/
theorem Trying.refresh_fails (h : o.Trying n n false loop f w) (hn : n < o.beforeJoin) :
    ∃ e b, o.errors[n]? = some e ∧ o.Broke (n + 1) false b ∧
      w.refresh (o.overseer false loop f) = (.error e, { w with broker := b }) := by
  by_cases hl : n < o.faults.list
  · obtain ⟨hselect, hb⟩ := h.broker.list_fails hl o.settings.pattern
    refine ⟨_, _, error_list hl, hb, ?_⟩
    simp only [Relay.refresh, overseer, hselect]
  · have hl := Nat.le_of_not_lt hl
    obtain ⟨hselect, hb⟩ := h.broker.listed hl
    obtain ⟨c, hjoin, hc⟩ := hb.join_fails hl hn
    refine ⟨_, c, error_connect hl hn, hc, ?_⟩
    simp [Relay.refresh, overseer, hselect, hjoin]

/-- After the failures the first group is joined. -/
theorem Trying.refresh_joins (h : o.Trying n n false loop f w) (hn : n = o.beforeJoin) :
    ∃ b, o.Broke n true b ∧ w.refresh (o.overseer false loop f) =
      (.ok true, ({ w with broker := b } : Relay).install (o.overseer false loop f) o.topics 0) := by
  have hl : o.faults.list ≤ n := hn ▸ Nat.le_add_right ..
  obtain ⟨hselect, hb⟩ := h.broker.listed hl
  obtain ⟨c, hjoin, hc⟩ := hb.joins hn
  have hst : ({ w with broker := c } : Relay).isStopped = false := h.notStopped
  refine ⟨c, hc, ?_⟩
  simp [Relay.refresh, overseer, hselect, hjoin, hst]

/-- An attempt to join fails. -/
theorem At.fails_to_join (h : o.At (.top n false) f w) (hn : n < o.beforeJoin) :
    ∃ v, w.step .loop = some v ∧ v.now = w.now ∧ o.At (.pausing (n + 1)) f v := by
  cases h with
  | top htry _ _ hnow htimers =>
    obtain ⟨e, b, he, hb, hrefresh⟩ := htry.refresh_fails hn
    refine ⟨({ w with broker := b } : Relay).retry (o.overseer false .top f) e, ?_, rfl, ?_⟩
    · rw [htry.step_loop]
      simp [stepLoop, htry.notStopped, hrefresh]
    · have hb' : o.Trying (n + 1) n false .top f { w with broker := b } := { htry with broker := hb }
      refine hb'.retry (fun _ _ => htry.ended (by simp)) he ?_ hnow htimers
      simp [Nat.not_lt.mpr hn]

/-- The first group is joined. -/
theorem At.joins (h : o.At (.top n false) f w) (hn : ¬ n < o.beforeJoin) :
    ∃ v, w.step .loop = some v ∧ v.now = w.now ∧ o.At (.top n true) f v ∧ o.Joins w v := by
  cases h with
  | top htry _ hle hnow htimers =>
    have hn : n = o.beforeJoin := Nat.le_antisymm (hle rfl) (Nat.le_of_not_lt hn)
    obtain ⟨b, hb, hrefresh⟩ := htry.refresh_joins hn
    have hstep : w.step .loop = some
        (({ w with broker := b } : Relay).install (o.overseer false .top f) o.topics 0) := by
      rw [htry.step_loop]
      simp [stepLoop, htry.notStopped, hrefresh]
    have hs : (({ w with broker := b } : Relay).install (o.overseer false .top f) o.topics
        0).supervisor = some (o.overseer true .top f) := by
      show w.supervisor.map _ = _
      rw [htry.supervisor]
      rfl
    refine ⟨_, hstep, rfl, .top { htry with
      supervisor := hs
      forwarder := ?_
      broker := hb } (fun _ => hn.ge) (by simp) hnow htimers, hstep, ⟨?_, htry.broker.connects⟩,
      ⟨?_, ?_, hb.connects, hb.closes⟩, hnow.trans (congrArg o.moment hn)⟩
    · rcases htry.forwarder with hf | ⟨hj, -⟩
      · exact .inl hf
      · cases hj
    · rw [htry.supervisor]
      rfl
    · rw [hs]
      rfl
    · rw [hs]
      rfl

/-- A session is about to be served. -/
theorem At.serves (h : o.At (.top n true) f w)
    (hfit : Pending.fits o.settings.maxUndelivered = true) :
    ∃ v, w.step .loop = some v ∧ v.now = w.now ∧ o.At (.calling n) f v := by
  cases h with
  | top htry hj _ hnow htimers =>
    have hstep : w.step .loop = some (w.serve (o.overseer true .top f) 0) := by
      rw [htry.step_loop]
      simp [stepLoop, htry.notStopped, o.topics_ne_nil]
    have hserve : w.serve (o.overseer true .top f) 0 = ({ w with
        sessions := w.sessions ++ [o.unused]
        calls := w.calls ++ [⟨0, w.sessions.length, o.topics, rootToken, .fresh⟩] } : Relay).setLoop
          (.serving w.calls.length 1) := if_neg (by simp [overseer, hfit])
    refine ⟨_, hstep, ?_, ?_⟩
    · rw [hserve]
      rfl
    · rw [hserve]
      refine .calling { htry with
        supervisor := htry.setLoop _
        unused := ?_
        callsEnded := ?_ } (hj rfl) hnow htimers List.getElem?_concat_length rfl rfl
          List.getElem?_concat_length
      · intro x hx
        rcases List.mem_append.mp hx with hx | hx
        · exact htry.unused x hx
        · exact List.mem_singleton.mp hx
      · intro c x hx
        by_cases hc : c < w.calls.length
        · exact .inl (htry.ended (by simp) ((List.getElem?_append_left hc).symm.trans hx))
        · have hlt : c < (w.calls ++ [_]).length := (List.getElem?_eq_some_iff.mp hx).1
          rw [List.length_append, List.length_singleton] at hlt
          exact .inr ⟨1, by rw [Nat.le_antisymm (Nat.le_of_lt_succ hlt) (Nat.le_of_not_lt hc)]⟩

/-- The call is open to its group. -/
theorem Trying.isOpen (h : o.Trying m n true loop f w) : w.broker.isClosed 0 = false := by
  obtain ⟨stream, hgroups⟩ := h.broker.groups
  unfold Broker.isClosed
  rw [hgroups]
  rfl

/-- The call that the loop runs is about to begin. -/
theorem Trying.step_calling {c : Nat} {x : ConsumeCall}
    (h : o.Trying m n true (.serving c 1) f w) (hx : w.calls[c]? = some x) (hp : x.phase = .fresh)
    (hg : x.group = 0) : w.step .loop = some (w.beginCall c x) := by
  rw [h.step_loop]
  simp [stepLoop, stepConsume, hx, hp, hg, h.isOpen]

/-- The call fails. -/
theorem At.refused_by (h : o.At (.calling n) f w) (hn : n < o.failures) :
    ∃ v, w.step .loop = some v ∧ v.now = w.now ∧ o.At (.refused n) f v := by
  cases h with
  | @calling _ c x _ _ htry hj hnow htimers hx hp hg hk =>
    obtain ⟨hfail, hb⟩ := htry.broker.consume_fails hj hn
    have hbegin : w.beginCall c x = ({ w with broker := w.broker.beginConsume.2 } : Relay).endCall c
        (some (.consume "injected consume failure")) := by
      simp only [beginCall, hfail, Bool.not_false, if_true]
    refine ⟨_, htry.step_calling hx hp hg, ?_, ?_⟩
    · rw [hbegin]
      rfl
    · rw [hbegin]
      refine .refused { htry with broker := hb, callsEnded := ?_ } hj hn hnow htimers
        (x := { x with phase := .ended (some (.consume "injected consume failure")) }) ?_ rfl
      · intro d y hy
        by_cases hd : c = d
        · exact .inr ⟨1, by rw [hd]⟩
        · exact htry.callsEnded d y ((List.getElem?_modify_ne _ _ hd).symm.trans hy)
      · show (w.calls.modify c _)[c]? = _
        rw [List.getElem?_modify_eq, hx]
        rfl

/-- A session that was set up is active. -/
theorem active_of_served {c : Nat} {x : ConsumeCall} {h : Hosted} {session : Session}
    (hk : w.sessions[x.session]? = some h) (ha : session.stage = .active) :
    ∃ y ∈ (w.served c x session).sessions, y.session.stage = .active := by
  have hget : (w.served c x session).sessions[x.session]?.map (fun y => y.session.stage) =
      some .active := by
    show ((w.sessions.modify x.session _).modify x.session _)[x.session]?.map _ = _
    rw [List.getElem?_modify_eq, List.getElem?_modify_eq, hk]
    simp [Session.starts_eq, ha]
  obtain ⟨y, hy, hs⟩ := Option.map_eq_some_iff.mp hget
  exact ⟨y, List.mem_of_getElem? hy, hs⟩

/-- The first session is set up. -/
theorem At.begins (h : o.At (.calling n) f w) (hn : ¬ n < o.failures) :
    ∃ v, w.step .loop = some v ∧ o.SetsUp w v := by
  cases h with
  | @calling _ c x _ _ htry hj hnow htimers hx hp hg hk =>
    have hn : n = o.failures := Nat.le_antisymm htry.few (Nat.le_of_not_lt hn)
    have hb := htry.broker.consumes_on hn
    have hbegin : w.beginCall c x = w.served c x { o.unused.session with
        stage := .active, confirmer := .asking, cancelled := w.isCancelled x.token } := by
      simp only [beginCall, congrArg Prod.fst hb, hk, Bool.not_true, Bool.false_eq_true, if_false]
      rfl
    obtain ⟨hcount, hshown, hsessions⟩ := books_told htry.few
    rw [← htry.books] at hcount hshown hsessions
    have hstep := htry.step_calling hx hp hg
    rw [hbegin] at hstep
    refine ⟨_, hstep, hstep, ⟨hsessions, fun y hy => ?_⟩, ⟨?_, ?_⟩, ?_, ?_, ?_, ?_, ?_, ?_, ?_⟩
    · rw [htry.unused y hy]
      rfl
    · exact congrArg (· + 1) hsessions
    · exact active_of_served hk rfl
    · exact hnow.trans (congrArg o.moment hn)
    · exact hcount.trans hn
    · refine hshown.trans ?_
      rw [hn, ← length_errors, List.take_length]
    · show w.supervisor.map _ = _
      rw [htry.supervisor]
      rfl
    · show w.broker.beginConsume.2.calls.groupConnects = 1
      rw [hb]
      exact htry.broker.connects
    · show w.broker.beginConsume.2.calls.groupCloses = 0
      rw [hb]
      exact htry.broker.closes
    · show w.broker.beginConsume.2.calls.consumes = _
      rw [hb]

/-- The failure of the call is counted and shown. -/
theorem At.tells (h : o.At (.refused n) f w) :
    ∃ v, w.step .loop = some v ∧ v.now = w.now ∧ o.At (.pausing (n + 1)) f v := by
  cases h with
  | @refused _ c x _ _ htry hj hn hnow htimers hx hp =>
    refine ⟨w.retry (o.overseer true (.serving c 1) f) (.consume "injected consume failure"), ?_, rfl,
      htry.retry (fun d y hy => ?_) (error_consume hj hn) ?_ hnow htimers⟩
    · rw [htry.step_loop]
      simp [stepLoop, hx, hp, htry.notStopped]
    · rcases htry.callsEnded d y hy with hp | ⟨g, hg⟩
      · exact hp
      · cases hg
        cases Option.some.inj (hx.symm.trans hy)
        exact ⟨_, hp⟩
    · simp [Nat.lt_succ_of_le hj]

/-- The pause is over. -/
theorem At.resumes (h : o.At (.pausing n) f w) (hn : ¬ w.now < o.moment n) :
    ∃ v, w.step .loop = some v ∧ v.now = w.now ∧ o.At (.top n (o.beforeJoin < n)) f v := by
  cases h with
  | pausing htry _ htimers =>
    rw [if_neg hn] at htimers
    refine ⟨(w.clearTimer .loop).setLoop .top, ?_, rfl, .top { htry with
      supervisor := htry.setLoop _
      callsEnded := fun _ _ hx => .inl (htry.ended (by simp) hx) } ?_ ?_ ?_ ?_⟩
    · rw [htry.step_loop]
      simp [stepLoop, htry.notStopped, hn]
    · exact fun hj => (of_decide_eq_true hj).le
    · exact fun hj => Nat.le_of_not_lt (of_decide_eq_false hj)
    · exact Nat.le_antisymm htry.early (Nat.le_of_not_lt hn)
    · show w.timers.filter _ = _
      rw [htimers]
      rfl

/-- The pause is not over. -/
theorem At.waits (h : o.At (.pausing n) f w) (hn : w.now < o.moment n) : w.step .loop = none := by
  cases h with
  | pausing htry =>
    rw [htry.step_loop]
    simp [stepLoop, htry.notStopped, hn]

end Sluice.Outage
