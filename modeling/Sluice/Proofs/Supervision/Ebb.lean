import Mathlib.Data.Prod.Lex
import Mathlib.Order.WellFounded
import Sluice.Proofs.Session.Stopping
import Sluice.Proofs.Supervision.Stream
/-!
# After the end everything comes to rest

Once a supervisor has been told to end, every move of a task takes it nearer to the end.
`Roster.distance` is how far the consume loop is from its end, and goes down with each of its moves;
`Relay.chores` is what is left for everybody else, and goes down while the loop stands still. Only a
feeder that straggles leaves both as they are, and it comes nearer to the end of its log:
`Relay.ahead`. So the tasks cannot go on moving for ever, and nobody has to let time go on or to
confirm anything for them.

* `Reachable.told`: after the end every session with claims has been told to end.
* `ebbs_of_loop`, `ebbs_of_claim`, `ebbs_of_confirmer`, …: task by task.
* `Reachable.ebbs`: whichever task moves.
* `Reachable.no_endless_run`, `Reachable.comes_to_rest`: what follows for runs.
-/
namespace Sluice

/-! ## What is left to do -/

/-- How many moves a feeder is from its end, once its session has been told to end. -/
def Feeder.Phase.left : Feeder.Phase → Nat
  | .fresh => 2
  | .ended => 0
  | _ => 1

/-- How many moves a caller is from its answer. -/
def Caller.Phase.left : Caller.Phase → Nat
  | .fresh => 2
  | .waiting => 1
  | _ => 0

/-- How far the loop that runs a call is from its end. -/
def ConsumeCall.Phase.left : ConsumeCall.Phase → Nat
  | .fresh => 6
  | .serving => 5
  | .leaving _ => 4
  | .cleaning _ => 3
  | .ended _ => 2

/-- What is left for the tasks of a session. -/
def Hosted.left (h : Hosted) : Nat :=
  h.session.confirmer.left + h.session.claims.countP (fun c => !c.hasEnded) +
    (h.feeders.map fun f => f.phase.left).sum

/-- How many messages the feeders of a session have before them. -/
def Hosted.ahead (log : Partition → List Message) (h : Hosted) : Nat :=
  (h.feeders.map fun f => (log f.source).length - f.next).sum

/-- What is left for the forwarder and the refresher. -/
def Supervisor.left (s : Supervisor) : Nat :=
  (if s.forwarder = .ended then 0 else 1) + if s.refresher = .ended then 0 else 1

/-- How far the consume loop is from its end. -/
def Roster.distance (R : Roster) : Nat :=
  match R.supervisor.map Supervisor.loop with
  | some .top => 1
  | some (.pausing _) => 1
  | some (.serving c _) => (R.calls[c]?.map fun x => x.phase.left).getD 0
  | _ => 0

namespace Relay

/-- The results that nobody has read. -/
def queued (w : Relay) : List Delivery := w.books.sink.deliveries.waiting

/-- What is left for all tasks but the consume loop. A result that waits is worth more than the move
by which a confirmer asks for the stream again. -/
def chores (w : Relay) : Nat :=
  3 * w.queued.length + (w.sessions.map Hosted.left).sum +
    (w.callers.map fun c => c.phase.left).sum + w.supervisor.elim 0 Supervisor.left

/-- The messages that all feeders have before them. -/
def ahead (w : Relay) : Nat := (w.sessions.map (Hosted.ahead w.broker.log)).sum

/-- A move has brought the end nearer: the loop is nearer to it, or stands still and less is left for
the others, or nothing has changed in this and a feeder has one message less before it. -/
def Ebbs (v w : Relay) : Prop :=
  v.roster.distance < w.roster.distance ∨
    v.roster.distance = w.roster.distance ∧
      (v.chores < w.chores ∨ v.chores = w.chores ∧ v.ahead < w.ahead)

end Relay

/-! ## Sessions that have been told to end -/

/-- A session that is being cleaned up, or was, has been told to end, and has a feeder for each of
its claims. -/
def Post.IsTold (p : Post) : Prop :=
  p.stage = .draining ∨ p.stage = .closed → p.cancelled = true ∧ p.feeders = p.claims

namespace Roster
variable {R S : Roster} {s s' : Supervisor} {ns : List Notice}

theorem told_modify (h : ∀ p ∈ R.posts, p.IsTold) (k : Nat) {f : Post → Post}
    (hf : ∀ p, R.posts[k]? = some p → p.IsTold → (f p).IsTold) :
    ∀ p ∈ (R.modifyPost k f).posts, p.IsTold := by
  intro p hp
  obtain ⟨j, hj⟩ := List.mem_iff_getElem?.mp hp
  rcases modify_cases hj with hj | ⟨-, q, hq, rfl⟩
  · exact h p (List.mem_of_getElem? hj)
  · exact hf q hq (h q (List.mem_of_getElem? hq))

theorem told_map (h : ∀ p ∈ R.posts, p.IsTold) (which : Post → Bool) :
    ∀ p ∈ R.posts.map fun p => if which p then p.dismiss else p, p.IsTold := by
  intro p hp
  obtain ⟨q, hq, rfl⟩ := List.mem_map.mp hp
  split
  · exact fun hs => ⟨rfl, (h q hq hs).2⟩
  · exact h q hq

/-- Every change keeps it so. -/
theorem Change.told (ho : Orderly R s) (h : ∀ p ∈ R.posts, p.IsTold) (hc : R.Change ns S) :
    ∀ p ∈ S.posts, p.IsTold := by
  cases hc with
  | report | refuse | giveUp | look | discard | turn | crash | forward | accept | call | wait
  | takeOver | answer | abandon | release | endRefresher | postpone => exact h
  | confirm f hk => exact told_modify h _ fun p _ hp => hp
  | begin dismissed n =>
    refine told_modify h _ fun p _ _ hs => ?_
    rcases hs with hs | hs <;> cases hs
  | leave failure => exact told_modify h _ fun p _ hp hs => ⟨rfl, (hp hs).2⟩
  | @drain c x p failure hx hp hk ha =>
    refine told_modify h _ fun q hq _ _ => ?_
    have hse := (ho.paired _ _ hx).1
    rw [hse] at hq
    have hfit := ho.fits _ _ _ hx hq
    rw [hp] at hfit
    exact ⟨hfit.2.2.1, hfit.2.2.2⟩
  | close hx hp hk hd =>
    refine told_modify h _ fun q hq hq' _ => ?_
    cases Option.some.inj (hk.symm.trans hq)
    exact hq' (.inl hd)
  | rebalance | stop => exact told_map h _
  | @install s₀ topics =>
    rw [(install_fields R s₀ topics).2.2.2.2.2.1]
    exact h
  | @endLoop s₀ =>
    obtain ⟨groups, left, he, -⟩ := leave?_eq R s₀.group
    rw [he]
    exact h
  | serve =>
    intro p hp
    rcases List.mem_append.mp hp with hp | hp
    · exact h p hp
    · cases List.mem_singleton.mp hp
      intro hs
      rcases hs with hs | hs <;> cases hs
  | @endForwarder s₀ _ reading =>
    obtain ⟨groups, he, -⟩ := dropStream?_eq R reading
    rw [he]
    exact h
  | @follow s₀ _ reading =>
    obtain ⟨groups, reading', he, -⟩ := follow_eq R s₀ reading
    rw [he]
    exact h

end Roster

namespace Relay
open Roster
variable {settings : Settings} {w v : Relay} {s : Supervisor} {k i : Nat} {h : Hosted}

/-- After the end a session has no tasks but a confirmer, or it has been told to end and has a feeder
for each of its claims. -/
theorem Reachable.told (hr : Reachable settings w) (hst : w.isStopped = true)
    (hk : w.sessions[k]? = some h) :
    h.session.claims = [] ∧ h.feeders = [] ∨
      h.session.cancelled = true ∧ h.feeders.length = h.session.claims.length := by
  obtain ⟨ns, hch⟩ := hr.chronicle
  obtain ⟨s, -, -, -, ho, htold⟩ := hch.holds
    (P := fun _ R s => Enrolled R s ∧ Orderly R s ∧ ∀ p ∈ R.posts, p.IsTold)
    (fun due => ⟨.start settings due, .start settings due, nofun⟩)
    fun ⟨he, ho, ht⟩ hs _ hc hs' => ⟨he.change hs hc hs', ho.change he hs hc hs', hc.told ho ht⟩
  obtain ⟨x, hx, hfit⟩ := fits_call ho hk
  have hp := htold _ (List.mem_of_getElem? (posts_get hk))
  have hidle : h.post = .idle → h.session.claims = [] ∧ h.feeders = [] := fun he =>
    ⟨List.length_eq_zero_iff.mp (congrArg Post.claims he),
      List.length_eq_zero_iff.mp (congrArg Post.feeders he)⟩
  cases hph : x.phase with
  | fresh =>
    rw [hph] at hfit
    exact .inl (hidle hfit)
  | serving =>
    rw [hph] at hfit
    exact .inr ⟨hfit.2.2.2.2.1 hst, hfit.2.2.2.2.2⟩
  | leaving =>
    rw [hph] at hfit
    exact .inr ⟨hfit.2.2.1, hfit.2.2.2⟩
  | cleaning =>
    rw [hph] at hfit
    exact .inr (hp (.inl hfit.1))
  | ended =>
    rw [hph] at hfit
    rcases hfit with hi | ⟨hc, -⟩
    · exact .inl (hidle hi)
    · exact .inr (hp (.inr hc))

/-! ## The tasks of sessions -/

theorem sessions_wakeHost (w : Relay) (k : Nat) : (w.wakeHost k).sessions = w.sessions := by
  unfold wakeHost
  split
  · rfl
  · unfold wakeCall
    split <;> rfl

theorem sessions_wakeFeeder (w : Relay) (k i : Nat) : (w.wakeFeeder k i).sessions = w.sessions := by
  unfold wakeFeeder
  split <;> rfl

theorem sessions_wakeClaim (w : Relay) (k i : Nat) : (w.wakeClaim k i).sessions = w.sessions := by
  unfold wakeClaim
  split <;> rfl

/-- Signals do no session's work. -/
theorem lefts_signal (k : Nat) (w : Relay) (x : Session.Signal) :
    (signal k w x).sessions.map Hosted.left = w.sessions.map Hosted.left := by
  cases x with
  | claim | stream => rfl
  | delivery =>
    show w.wakeReader.sessions.map Hosted.left = _
    unfold wakeReader
    split <;> rfl
  | room i => exact congrArg (List.map Hosted.left) (sessions_wakeFeeder w k i)
  | ended i =>
    unfold signal
    rw [sessions_wakeHost, sessions_wakeFeeder]
    exact map_modify_same w.sessions k fun h _ => rfl
  | confirmed => exact congrArg (List.map Hosted.left) (sessions_wakeHost w k)

/-- A move of a session's task leaves the supervisor, its calls and its callers to themselves. -/
theorem settleMove_fields (w : Relay) (k : Nat) (s : Session) (b : Books)
    (xs : List Session.Signal) :
    (w.settleMove k (s, b, xs)).supervisor = w.supervisor ∧
      (w.settleMove k (s, b, xs)).calls = w.calls ∧
      (w.settleMove k (s, b, xs)).callers = w.callers ∧
      (w.settleMove k (s, b, xs)).queued = b.sink.deliveries.waiting ∧
      (w.settleMove k (s, b, xs)).sessions.map Hosted.left =
        (w.sessions.modify k fun h => { h with session := s }).map Hosted.left := by
  have hr : (w.settleMove k (s, b, xs)).roster =
      { w.modifyHosted k fun h => { h with session := s } with books := b }.roster :=
    roster_foldl (roster_signal k) _ _
  have hf := congrArg Flow.deliveries (flow_settleMove w k s b xs)
  refine ⟨congrArg Roster.supervisor hr, congrArg Roster.calls hr, congrArg Roster.callers hr,
    congrArg Queue.waiting hf, ?_⟩
  unfold settleMove
  refine List.foldlRecOn (motive := fun v : Relay => v.sessions.map Hosted.left = _) xs (signal k)
    rfl fun v hv x _ => (lefts_signal k v x).trans hv

/-- A move of a session's task that leaves it less to do, results that wait counted thrice, brings
the end nearer. -/
theorem ebbs_of_settleMove {s' : Session} {b : Books} {xs : List Session.Signal}
    (hk : w.sessions[k]? = some h)
    (hl : 3 * b.sink.deliveries.waiting.length + Hosted.left { h with session := s' } <
      3 * w.queued.length + h.left) : (w.settleMove k (s', b, xs)).Ebbs w := by
  obtain ⟨h1, h2, h3, h4, h5⟩ := settleMove_fields w k s' b xs
  refine .inr ⟨?_, .inl ?_⟩
  · simp only [distance, roster, h1, h2]
  · have hsum := sum_modify Hosted.left (fun h => { h with session := s' }) w.sessions hk
    simp only [chores, h1, h3, h4, h5]
    omega

/-- After the end a claim that is there belongs to a session that has been told to end. -/
theorem Reachable.cancelled_of_claim (hr : Reachable settings w) (hst : w.isStopped = true)
    (hk : w.sessions[k]? = some h) {s' : Session} {b : Books}
    (hm : Session.Move h.rules k h.session w.books (.claim i) s' b) :
    h.session.cancelled = true := by
  rcases hr.told hst hk with ⟨hn, -⟩ | ⟨hca, -⟩
  · cases hm with
    | turnBack hi | enter hi | join hi | leave hi | take hi | stop hi | fail hi | oversize hi
    | unparsed hi | submit hi => simp [hn] at hi
  · exact hca

theorem ebbs_of_claim (hr : Reachable settings w) (hst : w.isStopped = true)
    (hs : w.stepSession k (.claim i) = some v) : v.Ebbs w := by
  obtain ⟨h, s', b, xs, hk, hm, rfl⟩ := move_of_session hs
  have hca := hr.cancelled_of_claim hst hk hm
  obtain ⟨c, hi, he, rfl, hco, -, hcl⟩ := Session.quit_of_claim hca hm
  refine ebbs_of_settleMove hk ?_
  have hcount := Session.running_of_quit hi he
  simp only [Hosted.left, hco, hcl, queued]
  omega

theorem ebbs_of_confirmer (hs : w.stepSession k .confirmer = some v) : v.Ebbs w := by
  obtain ⟨h, s', b, xs, hk, hm, rfl⟩ := move_of_session hs
  obtain ⟨hcl, hlt⟩ := Session.left_of_confirmer hm
  refine ebbs_of_settleMove hk ?_
  simp only [Hosted.left, hcl, queued]
  omega

/-! ## Feeders -/

theorem sessions_feed (w : Relay) (k i : Nat) (x : Item) :
    (w.feed k i x).sessions = (w.modifyClaim k i fun c => c.push x).sessions :=
  sessions_wakeClaim _ k i

theorem sessions_endFeeder (w : Relay) (k i : Nat) : (w.endFeeder k i).sessions =
    ((w.modifyFeeder k i fun f => { f with phase := .ended }).modifyClaim k i fun c =>
      { c with isOpen := false }).sessions := by
  unfold endFeeder
  dsimp only
  rw [← sessions_wakeClaim (w := (w.modifyFeeder k i fun f => { f with phase := .ended }).modifyClaim
    k i fun c => { c with isOpen := false }) k i]
  unfold wakeLeavingHost
  split
  · exact sessions_wakeHost _ k
  · rfl

/-- Whatever comes into the queue of a claim, or that no more comes, is no work for anybody. -/
theorem lefts_modifyClaim (w : Relay) (k i : Nat) {f : Claim → Claim}
    (hf : ∀ c, (f c).hasEnded = c.hasEnded) :
    (w.modifyClaim k i f).sessions.map Hosted.left = w.sessions.map Hosted.left := by
  refine map_modify_same w.sessions k fun h _ => ?_
  have hc : (h.session.claims.modify i f).countP (fun c => !c.hasEnded) =
      h.session.claims.countP fun c => !c.hasEnded := by
    cases hi : h.session.claims[i]? with
    | none => rw [List.modify_eq_self (by simpa using hi)]
    | some c =>
      have := countP_modify (fun c : Claim => !c.hasEnded) f h.session.claims hi
      rw [hf c] at this
      omega
  simp only [Hosted.left, Session.modify, hc]

/-- What is left for a feeder that moves counts in what is left altogether. -/
theorem lefts_modifyFeeder {f : Feeder} (hk : w.sessions[k]? = some h) (hf : h.feeders[i]? = some f)
    (g : Feeder → Feeder) : ((w.modifyFeeder k i g).sessions.map Hosted.left).sum + f.phase.left =
      (w.sessions.map Hosted.left).sum + (g f).phase.left := by
  have h1 := sum_modify (fun f => f.phase.left) g h.feeders hf
  have h2 := sum_modify Hosted.left (fun h => { h with feeders := h.feeders.modify i g })
    w.sessions hk
  simp only [Hosted.left] at h2
  simp only [modifyFeeder, modifyHosted]
  omega

theorem lefts_feed (w : Relay) (k i : Nat) (x : Item) :
    (w.feed k i x).sessions.map Hosted.left = w.sessions.map Hosted.left := by
  rw [sessions_feed]
  exact lefts_modifyClaim w k i fun c => rfl

theorem feeder_feed (hk : w.sessions[k]? = some h) (x : Item) :
    ∃ h', (w.feed k i x).sessions[k]? = some h' ∧ h'.feeders = h.feeders := by
  rw [sessions_feed]
  exact ⟨_, (List.getElem?_modify_eq ..).trans (congrArg (Option.map _) hk), rfl⟩

/-- A feeder that ends leaves less to do. -/
theorem lefts_endFeeder {f : Feeder} (hk : w.sessions[k]? = some h) (hf : h.feeders[i]? = some f)
    (hp : f.phase ≠ .ended) :
    ((w.endFeeder k i).sessions.map Hosted.left).sum < (w.sessions.map Hosted.left).sum := by
  have hpos : 0 < f.phase.left := by
    cases hph : f.phase with
    | ended => exact absurd hph hp
    | fresh | feeding | blocked | parked => simp [Feeder.Phase.left]
  rw [sessions_endFeeder, lefts_modifyClaim]
  · have := lefts_modifyFeeder hk hf fun f => { f with phase := .ended }
    simp only [Feeder.Phase.left] at this hpos ⊢
    omega
  · exact fun c => rfl

/-- What comes into a queue is not before its feeder any more or less. -/
theorem ahead_feed (w : Relay) (k i : Nat) (x : Item) : (w.feed k i x).ahead = w.ahead := by
  have hb : (w.feed k i x).broker = w.broker := by
    unfold feed wakeClaim
    split <;> rfl
  unfold ahead
  rw [hb, sessions_feed]
  exact congrArg List.sum (map_modify_same w.sessions k fun _ _ => rfl)

/-- A feeder that goes past a message has one less before it. -/
theorem ahead_lt {f : Feeder} {m : Message} {g : Feeder → Feeder} (hk : w.sessions[k]? = some h)
    (hf : h.feeders[i]? = some f) (hm : (w.broker.log f.source)[f.next]? = some m)
    (hs : (g f).source = f.source) (hn : (g f).next = f.next + 1) :
    (w.modifyFeeder k i g).ahead < w.ahead := by
  have hlt : f.next < (w.broker.log f.source).length := (List.getElem?_eq_some_iff.mp hm).1
  have h1 := sum_modify (fun f => (w.broker.log f.source).length - f.next) g h.feeders hf
  have h2 := sum_modify (Hosted.ahead w.broker.log)
    (fun h => { h with feeders := h.feeders.modify i g }) w.sessions hk
  simp only [hs, hn] at h1
  simp only [Hosted.ahead] at h2
  simp only [ahead, modifyFeeder, modifyHosted]
  omega

/-- A feeder whose session has been told to end comes nearer to its end or to the end of its log, and
does nothing else that is any work. -/
theorem feeder_of_cancelled {f : Feeder} {c : Claim} (hk : w.sessions[k]? = some h)
    (hf : h.feeders[i]? = some f) (hc : h.session.cancelled = true) (hm : w.FeederMove k i h f c v) :
    v.flow.deliveries = w.flow.deliveries ∧
      ((v.sessions.map Hosted.left).sum < (w.sessions.map Hosted.left).sum ∨
        (v.sessions.map Hosted.left).sum = (w.sessions.map Hosted.left).sum ∧ v.ahead < w.ahead) := by
  have hflow : ∀ u : Relay, (u.endFeeder k i).flow.deliveries = u.flow.deliveries := fun u => by
    rw [flow_endFeeder]
    rfl
  cases hm with
  | fail hp =>
    -- the claim fails before anything is fed
    obtain ⟨h', hk', hf'⟩ := feeder_feed (w := { w with broker := w.broker.takeClaimFault.2 })
      (i := i) hk (.failure (.consume "injected claim error"))
    refine ⟨(hflow _).trans (by rw [flow_feed]; rfl), .inl ?_⟩
    refine lt_of_lt_of_eq (lefts_endFeeder hk' (hf' ▸ hf) (by simp [hp])) ?_
    rw [lefts_feed]
  | begin hp =>
    refine ⟨?_, .inl ?_⟩
    · rw [flow_modifyFeeder]
      rfl
    · have := lefts_modifyFeeder (w := { w with broker := w.broker.takeClaimFault.2 }) hk hf fun f =>
        { f with
          first := startOffset w.books.store f.source
          next := startOffset w.books.store f.source
          phase := .feeding }
      simp only [hp, Feeder.Phase.left] at this ⊢
      omega
  | stop _ hp => exact ⟨hflow w, .inl (lefts_endFeeder hk hf hp)⟩
  | put hp he hm =>
    have hleft := lefts_modifyFeeder hk hf fun f => { f with next := f.next + 1, phase := .feeding }
    refine ⟨by rw [flow_feed, flow_modifyFeeder]; rfl, .inr ⟨?_, ?_⟩⟩
    · rw [lefts_feed]
      cases hph : f.phase with
      | fresh => exact absurd hph hp
      | ended => exact absurd hph he
      | feeding | blocked | parked => simpa [hph, Feeder.Phase.left] using hleft
    · rw [ahead_feed]
      exact ahead_lt hk hf hm rfl rfl
  | park _ _ hx | desert _ _ hx | block _ _ hx =>
    rw [hc] at hx
    cases hx

theorem ebbs_of_feeder {f : Feeder} {c : Claim} (hr : Reachable settings w)
    (hst : w.isStopped = true) (hk : w.sessions[k]? = some h) (hf : h.feeders[i]? = some f)
    (hm : w.FeederMove k i h f c v) : v.Ebbs w ∧ v.flow.deliveries = w.flow.deliveries := by
  rcases hr.told hst hk with ⟨-, hn⟩ | ⟨hc, -⟩
  · rw [hn] at hf
    cases hf
  · have hro := roster_of_feeder hm
    obtain ⟨hd, hlt⟩ := feeder_of_cancelled hk hf hc hm
    refine ⟨.inr ⟨by rw [hro], ?_⟩, hd⟩
    have hq : v.queued = w.queued := congrArg Queue.waiting hd
    have hsup : v.supervisor = w.supervisor := congrArg Roster.supervisor hro
    have hcal : v.callers = w.callers := congrArg Roster.callers hro
    simp only [chores, hq, hsup, hcal]
    rcases hlt with hlt | ⟨heq, hlt⟩
    · exact .inl (by omega)
    · exact .inr ⟨by omega, hlt⟩

/-! ## The forwarder, the refresher and the callers -/

theorem ebbs_of_forwarder (hw : w.supervisor = some s) (hst : w.isStopped = true)
    (hm : w.ForwarderMove s v) : v.Ebbs w := by
  cases hm with
  | @stop seen reading hf =>
    refine .inr ⟨?_, .inl ?_⟩
    · rw [roster_endForwarder hw]
      cases reading <;> simp [distance, put, dropStream?, modifyGroup, roster, hw]
    · have hn : s.forwarder ≠ .ended := by simp [hf]
      cases reading <;>
        simp [endForwarder, chores, queued, wakeCallers, wakeAll, modifySupervisor, hw,
          Supervisor.left, hn]
  | follow _ hx | forward _ hx =>
    rw [hst] at hx
    cases hx

theorem ebbs_of_refresher (hw : w.supervisor = some s) (hst : w.isStopped = true)
    (hm : w.RefresherMove s v) : v.Ebbs w := by
  cases hm with
  | stop hf =>
    have hn : s.refresher ≠ .ended := by simp [hf]
    refine .inr ⟨?_, .inl ?_⟩
    · simp [distance, roster, clearTimer, wakeCallers, wakeAll, modifySupervisor, hw]
    · simp [chores, queued, clearTimer, wakeCallers, wakeAll, modifySupervisor, hw,
        Supervisor.left, hn]
  | refresh _ _ hx | refreshFails _ _ hx =>
    rw [hst] at hx
    cases hx

theorem cancel_of_stopped (hst : w.isStopped = true) : w.cancel rootToken = w := if_pos hst

theorem answer_of_stopped (hst : w.isStopped = true) (i : Nat) (b : Bool) :
    w.answer i b = w.setCaller i (.done b) := by
  unfold answer reap
  split
  · exact cancel_of_stopped (w := w.setCaller i (.done b)) hst
  · rfl

/-- After the end a caller takes over to wait for the tasks, or gets its answer. -/
theorem caller_of_stopped (hw : w.supervisor = some s) (hst : w.isStopped = true)
    (hm : w.CallerMove s i v) : ∃ c p s', w.callers[i]? = some c ∧
      Caller.Phase.left p < c.phase.left ∧ s'.left = s.left ∧ s'.loop = s.loop ∧
      v = ({ w with supervisor := some s' } : Relay).setCaller i p := by
  have hsame : ({ w with supervisor := some s } : Relay) = w := by rw [← hw]
  have hanswer : ∀ {c} b, w.callers[i]? = some c → 0 < c.phase.left →
      ∃ c p s', w.callers[i]? = some c ∧ Caller.Phase.left p < c.phase.left ∧ s'.left = s.left ∧
        s'.loop = s.loop ∧ w.answer i b = ({ w with supervisor := some s' } : Relay).setCaller i p :=
    fun b hc hlt => ⟨_, .done b, s, hc, hlt, rfl, rfl, by rw [answer_of_stopped hst, hsame]⟩
  have htake : ∀ {kind}, w.callers[i]? = some ⟨kind, .fresh⟩ →
      ∃ c p s', w.callers[i]? = some c ∧ Caller.Phase.left p < c.phase.left ∧ s'.left = s.left ∧
        s'.loop = s.loop ∧
        w.takeOver s i = ({ w with supervisor := some s' } : Relay).setCaller i p := by
    intro kind hc
    unfold takeOver
    split
    · exact hanswer true hc Nat.two_pos
    · refine ⟨_, .waiting, { s with awaited := true }, hc, Nat.one_lt_two, rfl, rfl, ?_⟩
      simp only [modifySupervisor, hw, Option.map_some]
  cases hm with
  | refuse hc hp =>
    refine hanswer false hc ?_
    rcases hp with rfl | rfl
    · exact Nat.two_pos
    · exact Nat.one_pos
  | grant _ _ hx | wait _ hx =>
    rw [hst] at hx
    cases hx
  | finish hc => exact htake hc
  | shutdown hc =>
    rw [cancel_of_stopped hst]
    exact htake hc
  | done hc => exact hanswer true hc Nat.one_pos

theorem ebbs_of_caller (hw : w.supervisor = some s) (hst : w.isStopped = true)
    (hm : w.CallerMove s i v) : v.Ebbs w := by
  obtain ⟨c, p, s', hc, hlt, hleft, hloop, rfl⟩ := caller_of_stopped hw hst hm
  refine .inr ⟨by simp [distance, roster, setCaller, hw, hloop], .inl ?_⟩
  have hsum := sum_modify (fun c : Caller => c.phase.left) (fun c => { c with phase := p })
    w.callers hc
  dsimp only at hsum
  simp only [chores, queued, setCaller, hw, hleft, Option.elim_some]
  omega

/-! ## The consume loop -/

/-- After the end a call comes nearer to its end with every move, and no result is queued. -/
theorem call_of_stopped {c : Nat} {x : ConsumeCall}
    (hca : x.phase = .serving → ∀ h, w.sessions[x.session]? = some h → h.session.cancelled = true)
    (hm : w.CallMove c x v) : ∃ p, p.left < x.phase.left ∧
      v.supervisor = w.supervisor ∧ v.calls = (w.setCall c p).calls ∧
      v.flow.deliveries = w.flow.deliveries := by
  cases hm with
  | refuse hp | fail _ hp | unready _ hp | begin hp =>
    exact ⟨_, by simp [ConsumeCall.Phase.left, hp], rfl, rfl, rfl⟩
  | @leave h failure hp =>
    have hr := roster_endSession w x.session
    exact ⟨_, by simp [ConsumeCall.Phase.left, hp], congrArg Roster.supervisor hr,
      congrArg (fun R : Roster => (R.setCall c (.leaving failure)).calls) hr,
      congrArg Flow.deliveries (flow_leaveCall w c x failure)⟩
  | look hp hk _ hx | abort hp hk _ hx =>
    rw [hca hp _ hk] at hx
    cases hx
  | drain hp | giveUp hp | close hp =>
    exact ⟨_, by simp [ConsumeCall.Phase.left, hp], rfl, rfl, rfl⟩

theorem distance_of_endLoop (hw : w.supervisor = some s) : (w.endLoop s).roster.distance = 0 := by
  rw [roster_endLoop hw]
  rfl

/-- After the end the consume loop comes nearer to its end with every move, and no result is
queued. -/
theorem ebbs_of_loop (hr : Reachable settings w) (hst : w.isStopped = true)
    (hw : w.supervisor = some s) (hm : w.LoopMove s v) :
    v.Ebbs w ∧ v.flow.deliveries = w.flow.deliveries := by
  obtain ⟨s', hw', -, he, ho⟩ := hr.kept
  cases Option.some.inj (hw.symm.trans hw')
  have hserving : ∀ {c n x}, s.loop = .serving c n → w.calls[c]? = some x →
      w.roster.distance = x.phase.left := fun hl hx => by simp [distance, roster, hw, hl, hx]
  cases hm with
  | stop _ hl =>
    refine ⟨.inl ?_, congrArg Flow.deliveries (flow_endLoop w s)⟩
    rw [distance_of_endLoop hw]
    rcases hl with hl | ⟨moment, hl⟩ | ⟨c, n, x, e, hl, hx, hp⟩
    · simp [distance, roster, hw, hl]
    · simp [distance, roster, hw, hl]
    · rw [hserving hl hx, hp]
      exact Nat.two_pos
  | join _ hx | joinFails _ hx | idle _ hx | serve _ hx | resume _ hx | retry _ _ _ _ hx =>
    rw [hst] at hx
    cases hx
  | finish hl hx hp =>
    refine ⟨.inl ?_, congrArg Flow.deliveries (flow_setLoop w _)⟩
    rw [roster_setLoop hw, hserving hl hx, hp]
    exact Nat.one_lt_two
  | @call c n x _ hl hx hm =>
    have hx : w.calls[c]? = some x := hx
    have hca : x.phase = .serving → ∀ h, w.sessions[x.session]? = some h →
        h.session.cancelled = true := fun hp h hk => by
      rw [(ho.paired c x hx).1] at hk
      have hfit := ho.fits c x h.post hx (posts_get hk)
      rw [hp] at hfit
      exact hfit.2.2.2.2.1 hst
    obtain ⟨p, hlt, h1, h2, h3⟩ := call_of_stopped hca hm
    refine ⟨.inl ?_, h3⟩
    rw [hserving hl hx]
    have : v.roster.distance = p.left := by
      simp [distance, roster, h1, h2, hw, hl, setCall, hx]
    rw [this]
    exact hlt

/-! ## Whichever task moves -/

/-- A call that the consume loop does not run has ended. -/
theorem rests_of_other (ho : Orderly w.roster s) (hw : w.supervisor = some s) {c : Nat}
    {x : ConsumeCall} (hn : w.loopCall ≠ some c) (hx : w.calls[c]? = some x) :
    ¬ w.CallMove c x v := by
  intro hm
  rcases ho.busy c x hx with ⟨failure, hp⟩ | ⟨n, hl⟩
  · exact hm.unended failure hp
  · exact hn (by simp [loopCall, hw, hl])

/-- After the end every move brings the end nearer. -/
theorem Reachable.ebbs (hr : Reachable settings w) (hst : w.isStopped = true) {t : Task}
    (hs : w.step t = some v) : v.Ebbs w := by
  obtain ⟨s, hw, -, -, ho⟩ := hr.kept
  cases move_of_step hs with
  | claim hs => exact ebbs_of_claim hr hst hs
  | confirmer hs => exact ebbs_of_confirmer hs
  | feeder hk hf _ hm | straggler hk hf _ hm => exact (ebbs_of_feeder hr hst hk hf hm).1
  | call hn hx hm => exact absurd hm (rests_of_other ho hw hn hx)
  | loop hw hm => exact (ebbs_of_loop hr hst hw hm).1
  | forwarder hw hm => exact ebbs_of_forwarder hw hst hm
  | refresher hw hm => exact ebbs_of_refresher hw hst hm
  | caller hw hm => exact ebbs_of_caller hw hst hm

/-- No move but a confirmer's changes the results after the end. -/
theorem Reachable.deliveries_of_step (hr : Reachable settings w) (hst : w.isStopped = true)
    {t : Task} (ht : t.session? = none) (hs : w.step t = some v) :
    v.flow.deliveries = w.flow.deliveries := by
  obtain ⟨s, hw, -, -, ho⟩ := hr.kept
  cases move_of_step hs with
  | claim | confirmer => cases ht
  | feeder hk hf _ hm | straggler hk hf _ hm => exact (ebbs_of_feeder hr hst hk hf hm).2
  | call hn hx hm => exact absurd hm (rests_of_other ho hw hn hx)
  | loop hw hm => exact (ebbs_of_loop hr hst hw hm).2
  | forwarder _ hm => exact congrArg Flow.deliveries (flow_forwarder hm)
  | refresher _ hm => exact congrArg Flow.deliveries (flow_refresher hm)
  | caller _ hm => exact congrArg Flow.deliveries (flow_caller hm)

/-! ## Runs after the end -/

/-- The relays that a relay comes to by moves of its tasks alone: no time goes on, and nothing
happens from outside. -/
inductive Moves (w : Relay) : Relay → Prop where
  | here : Moves w w
  | move {v u : Relay} (t : Task) : Moves w v → v.step t = some u → Moves w u

theorem Moves.head {u : Relay} {t : Task} (h : v.Moves u) (hs : w.step t = some v) : w.Moves u := by
  induction h with
  | here => exact .move t .here hs
  | move t _ hs' ih => exact .move t ih hs'

theorem Reachable.stays_stopped (hr : Reachable settings w) (hst : w.isStopped = true) {t : Task}
    (hs : w.step t = some v) : v.isStopped = true := by
  obtain ⟨s, hw, -⟩ := hr.kept
  exact (changes_of_step hw hs).holds (P := fun R => R.stopped = true)
    (fun hst hc => hc.stays_stopped hst) hst

/-- What is left to do: the loop first, then the others, and last what stragglers may still put into
queues. -/
def measure (w : Relay) : Nat ×ₗ Nat ×ₗ Nat := toLex (w.roster.distance, toLex (w.chores, w.ahead))

theorem Ebbs.lt (h : v.Ebbs w) : v.measure < w.measure :=
  Prod.Lex.toLex_lt_toLex.mpr (h.imp_right fun h => ⟨h.1, Prod.Lex.toLex_lt_toLex.mpr h.2⟩)

theorem measure_wf : WellFounded fun v w : Relay => v.measure < w.measure :=
  InvImage.wf measure wellFounded_lt

/-- After the end the tasks cannot go on moving for ever. -/
theorem Reachable.no_endless_run (hr : Reachable settings w) (hst : w.isStopped = true)
    {run : Nat → Relay} (h0 : run 0 = w) : ∃ n, ∀ t, (run n).step t ≠ some (run (n + 1)) := by
  by_contra hn
  simp only [not_exists, not_forall, not_not] at hn
  have hall : ∀ n, Reachable settings (run n) ∧ (run n).isStopped = true := by
    intro n
    induction n with
    | zero => exact h0 ▸ ⟨hr, hst⟩
    | succ n ih =>
      obtain ⟨t, ht⟩ := hn n
      exact ⟨.move t ih.1 ht, ih.1.stays_stopped ih.2 ht⟩
  obtain ⟨n, hlt⟩ := WellFounded.not_rel_apply_succ (r := (· < ·)) fun n => (run n).measure
  obtain ⟨t, ht⟩ := hn n
  exact hlt ((hall n).1.ebbs (hall n).2 ht).lt

/-- After the end the tasks come to rest by their moves alone. -/
theorem Reachable.comes_to_rest (hr : Reachable settings w) (hst : w.isStopped = true) :
    ∃ v, w.Moves v ∧ v.Settled := by
  induction w using measure_wf.induction with
  | _ w ih =>
    by_cases hs : w.Settled
    · exact ⟨w, .here, hs⟩
    · obtain ⟨t, ht⟩ := not_forall.mp hs
      obtain ⟨v, hv⟩ := Option.ne_none_iff_exists'.mp ht
      obtain ⟨u, hu, hrest⟩ := ih v (hr.ebbs hst hv).lt (.move t hr hv) (hr.stays_stopped hst hv)
      exact ⟨u, hu.head hv, hrest⟩

end Relay
end Sluice
