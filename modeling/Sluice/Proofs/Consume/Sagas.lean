import Sluice.Proofs.Consume.Drifts
import Sluice.Proofs.Consume.Rolls
/-!
# What a call asks of its handler

A consume call has a handler set a session up, starts claims and feeders, tells the session to end,
waits until all of them have ended, and has the handler clean the session up. A saga is a run of a
relay with these deeds of one call, first to last. In a saga handlers answer what they like: they
refuse to set a session up or to clean it up, and a claim ends when it likes, with any result.

* `deeds`: what a call does in a step.
* `Answers`: the steps in which a handler answers otherwise than the session of a relay.
* `Acts`, `Saga`: steps and runs with the deeds of one call.
* `Reachable.saga`, `ByHand.saga`: sagas lead to every relay there is.
* `Performs`: the moves of a call, whatever its handler answers, each with its deeds.
* `performs_of_step`: all that a call of a relay does are such moves.
-/
namespace Sluice.Relay

/-! ## Deeds -/

/-- Why a session is told to end. -/
inductive Reason where
  | closed
  | cancelled
  /-- A claim has ended with a failure. -/
  | failed (e : RelayError)
  deriving DecidableEq, Repr

/-- The failure that comes with a reason. -/
def Reason.failure? : Reason → Option RelayError
  | .closed => some .groupClosed
  | .cancelled => none
  | .failed e => some e

/-- What a call does, or what happens to the claims and feeders that it has started. -/
inductive Deed where
  /-- The handler was asked to set the session up, and this was its answer. -/
  | setup (failure : Option RelayError)
  /-- A claim and a feeder were started on a partition. -/
  | claim (p : Partition)
  | ended (e : Ending)
  /-- The session was told to end. -/
  | told (r : Reason)
  /-- The handler was asked to clean the session up. -/
  | cleanup
  /-- This was its answer. -/
  | cleaned (failure : Option RelayError)
  | returned (failure : Option RelayError)
  deriving DecidableEq, Repr

/-- The failure of an answer. -/
def failureOf {α : Type} : Except RelayError α → Option RelayError
  | .ok _ => none
  | .error e => some e

/-- The partitions of the claims that a session has got since. -/
def started (o o' : Option Hosted) : List Partition :=
  match o, o' with
  | some h, some h' => (h'.session.claims.drop h.session.claims.length).map Claim.source
  | _, _ => []

/-- What call `c` does in a step: how far it has come before and after it says what the call asks of its
session, and the session answers. A call that has not begun does not ask if its group is closed, if a
failure was injected, or if it has no session. -/
def deeds (c : Nat) (w v : Relay) : List Deed :=
  match w.calls[c]?, v.calls[c]? with
  | some x, some y =>
    let h := w.sessions[x.session]?
    let setup := (h.map fun h => Deed.setup (failureOf h.session.setup)).toList
    match x.phase, y.phase with
    | .fresh, .serving => setup ++ (started h v.sessions[x.session]?).map .claim
    | .fresh, .ended failure =>
      if w.broker.isClosed x.group || !w.broker.beginConsume.1 then [.returned failure]
      else setup ++ [.returned failure]
    | .serving, .leaving failure =>
      [.told (if w.broker.isClosed x.group then .closed else failure.elim .cancelled .failed)]
    | .leaving _, .cleaning _ => [.cleanup]
    | .leaving _, .ended failure =>
      .cleanup :: (h.map fun h => Deed.cleaned (failureOf h.session.drain)).toList ++ [.returned failure]
    | .cleaning _, .ended failure => [.cleaned none, .returned failure]
    | _, _ => []
  | _, _ => []

/-- The moves of call `c`, which is `x`, in which its handler fails as it likes, with what the call
does. -/
inductive Answers (w : Relay) (c : Nat) (x : ConsumeCall) : List Deed → Relay → Prop where
  /-- The handler does not set the session up. -/
  | unready {h : Hosted} (e : RelayError) : x.phase = .fresh → w.broker.isClosed x.group = false →
      w.broker.beginConsume.1 = true → w.sessions[x.session]? = some h →
      Answers w c x [.setup (some e), .returned (some e)]
        (((({ w with broker := w.broker.beginConsume.2 } : Relay).enlist c).unlist c).endCall c (some e))
  /-- All feeders and claims have ended, and the handler does not clean the session up. -/
  | giveUp {h : Hosted} {failure : Option RelayError} (e : RelayError) :
      x.phase = .leaving failure → w.sessions[x.session]? = some h →
      (∀ f ∈ h.feeders, f.phase = .ended) → (∀ c ∈ h.session.claims, c.hasEnded = true) →
      Answers w c x [.cleanup, .cleaned (some e), .returned (some (failure.getD e))]
        ((w.unlist c).endCall c (some (failure.getD e)))
  /-- The handler does not clean the session up to the end. -/
  | abandon {failure : Option RelayError} (e : RelayError) : x.phase = .cleaning failure →
      Answers w c x [.cleaned (some e), .returned (some (failure.getD e))]
        ((w.unlist c).endCall c (some (failure.getD e)))

/-! ## Runs -/

/-- The session that a call hosts. -/
def hostedBy (w : Relay) (c : Nat) : Option Hosted :=
  (w.calls[c]?.bind fun x => w.sessions[x.session]?).filter fun h => h.host = some c

/-- Who ends in a step, of those that call `c` has started. -/
def endings (c : Nat) (w v : Relay) : List Ending :=
  match w.hostedBy c, v.hostedBy c with
  | some h, some h' => h.endings h'
  | _, _ => []

/-- One step of a relay, with what call `c` does in it. -/
inductive Acts (c : Nat) (w : Relay) : List Deed → Relay → Prop where
  | use (u : Use) : Acts c w [] (w.use u)
  /-- A task moves. -/
  | task {t : Task} {v : Relay} : w.step t = some v → Acts c w (deeds c w v) v
  /-- A claim ends as its handler likes. -/
  | settle {k i : Nat} {h : Hosted} {y : Claim} (failure : Option RelayError) :
      w.sessions[k]? = some h → h.session.claims[i]? = some y → y.result? = none →
      Acts c w [] (w.settleMove k (h.session.finish i failure, w.books, [.ended i]))
  /-- The handler of the call answers as it likes. -/
  | own {x : ConsumeCall} {ds : List Deed} {v : Relay} : w.calls[c]? = some x →
      w.Answers c x ds v → Acts c w ds v
  /-- The handler of another call answers as it likes. -/
  | other {d : Nat} {x : ConsumeCall} {ds : List Deed} {v : Relay} : d ≠ c → w.calls[d]? = some x →
      w.Answers d x ds v → Acts c w [] v

/-- The relays that a relay comes to, its tasks moving in any order and handlers answering what they
like, with what call `c` does on the way, first to last. -/
inductive Saga (c : Nat) (w : Relay) : List Deed → Relay → Prop where
  | here : Saga c w [] w
  | next {ds es : List Deed} {v u : Relay} : Saga c w ds v → Acts c v es u →
      Saga c w (ds ++ ((v.endings c u).map .ended ++ es)) u

/-- A saga through a moment at which call `c` does something, with what it did before and since. -/
def Moment (c : Nat) (w : Relay) (before now since : List Deed) (v : Relay) (P : Relay → Prop) :
    Prop :=
  ∃ u u', Saga c w before u ∧ Acts c u now u' ∧ P u ∧ Saga c u' since v

variable {w v u : Relay} {c : Nat} {x y : ConsumeCall} {ds es : List Deed}

theorem Moment.next {before now since : List Deed} {P : Relay → Prop}
    (h : Moment c w before now since v P) (ha : Acts c v es u) :
    Moment c w before now (since ++ ((v.endings c u).map .ended ++ es)) u P := by
  obtain ⟨a, b, hb, hn, hP, hs⟩ := h
  exact ⟨a, b, hb, hn, hP, hs.next ha⟩

theorem Reachable.saga {settings : Settings} (c : Nat) (h : Reachable settings w) :
    ∃ ds, Saga c (empty.start settings) ds w := by
  induction h with
  | start => exact ⟨_, .here⟩
  | event e _ ih =>
    obtain ⟨ds, h⟩ := ih
    exact ⟨_, h.next (.use (.event e))⟩
  | move t _ hs ih =>
    obtain ⟨ds, h⟩ := ih
    exact ⟨_, h.next (.task hs)⟩

theorem ByHand.saga (c : Nat) (h : ByHand w) : ∃ ds, Saga c empty ds w := by
  induction h with
  | start => exact ⟨_, .here⟩
  | use u _ ih =>
    obtain ⟨ds, h⟩ := ih
    exact ⟨_, h.next (.use u)⟩
  | move t _ hs ih =>
    obtain ⟨ds, h⟩ := ih
    exact ⟨_, h.next (.task hs)⟩

/-! ## The moves of a call -/

/-- The moves of call `c`, which is `x`, with what it does. -/
inductive Performs (w : Relay) (c : Nat) (x : ConsumeCall) : List Deed → Relay → Prop where
  /-- The group has been closed before the call began. -/
  | refuse : x.phase = .fresh → w.broker.isClosed x.group = true →
      Performs w c x [.returned (some .groupClosed)] (w.endCall c (some .groupClosed))
  /-- A failure was injected, or there is no session to set up. -/
  | fail (failure : Option RelayError) : x.phase = .fresh → w.broker.isClosed x.group = false →
      w.broker.beginConsume.1 = false ∧ failure = some (.consume "injected consume failure") ∨
        w.sessions[x.session]? = none ∧ failure = none →
      Performs w c x [.returned failure]
        (({ w with broker := w.broker.beginConsume.2 }).endCall c failure)
  | begin {h : Hosted} : x.phase = .fresh → w.broker.isClosed x.group = false →
      w.broker.beginConsume.1 = true → w.sessions[x.session]? = some h → h.session.stage = .idle →
      Performs w c x (.setup none :: (x.topics.flatMap w.broker.partitions).map .claim)
        (w.served c x
          { h.session with stage := .active, confirmer := .asking, cancelled := w.isCancelled x.token })
  /-- The group has been closed. -/
  | close {h : Hosted} : x.phase = .serving → w.sessions[x.session]? = some h →
      w.broker.isClosed x.group = true →
      Performs w c x [.told .closed] (w.leaveCall c x (some .groupClosed))
  /-- The session has been told to end from outside. -/
  | cancel {h : Hosted} : x.phase = .serving → w.sessions[x.session]? = some h →
      w.broker.isClosed x.group = false → h.session.cancelled = true →
      Performs w c x [.told .cancelled] (w.leaveCall c x none)
  /-- A claim has ended without a failure. -/
  | look {h : Hosted} {i : Nat} {rest : List Nat} : x.phase = .serving →
      w.sessions[x.session]? = some h → h.ended = i :: rest →
      h.session.claims[i]?.bind Claim.failure? = none →
      Performs w c x [] (w.modifyHosted x.session fun h => { h with ended := rest })
  /-- A claim has ended with a failure. -/
  | abort {h : Hosted} {i : Nat} {rest : List Nat} {e : RelayError} : x.phase = .serving →
      w.sessions[x.session]? = some h → w.broker.isClosed x.group = false →
      h.session.cancelled = false → h.ended = i :: rest →
      h.session.claims[i]?.bind Claim.failure? = some e →
      Performs w c x [.told (.failed e)]
        ((w.modifyHosted x.session fun h => { h with ended := rest }).leaveCall c x (some e))
  /-- All feeders and claims have ended, and the handler begins to clean the session up. -/
  | drain {h : Hosted} {failure : Option RelayError} : x.phase = .leaving failure →
      w.sessions[x.session]? = some h → (∀ f ∈ h.feeders, f.phase = .ended) →
      (∀ c ∈ h.session.claims, c.hasEnded = true) → h.session.stage = .active →
      Performs w c x [.cleanup] (((w.modifyHosted x.session fun y =>
        { y with session := { h.session with stage := .draining } }).wake
          (.confirmer x.session)).setCall c (.cleaning failure))
  /-- The session has been cleaned up. -/
  | finish {h : Hosted} {failure : Option RelayError} : x.phase = .cleaning failure →
      w.sessions[x.session]? = some h → h.session.stage = .draining → h.session.confirmer = .ended →
      Performs w c x [.cleaned none, .returned failure] (((w.modifyHosted x.session fun y =>
        { y with session := { h.session with stage := .closed } }).unlist c).endCall c failure)
  /-- The handler does not do what it was asked for. -/
  | answers {ds : List Deed} {v : Relay} : w.Answers c x ds v → Performs w c x ds v

theorem partitions_beginConsume (b : Broker) : b.beginConsume.2.partitions = b.partitions := by
  unfold Broker.beginConsume
  dsimp only
  split <;> rfl

theorem ground_assign (w : Relay) (k : Nat) (ps : List Partition) :
    (w.assign k ps).ground = w.ground.modify k fun h => { h with
      session := { h.session with
        claims := h.session.claims ++ ps.map fun p => Claim.start p.topic p.index }
      feeders := ps.map fun p => ⟨p, 0, 0, .fresh⟩ } := by
  unfold assign
  simp only [Session.starts_eq]
  rfl

/-- A session is set up, and gets a claim and a feeder for every partition. The broker keeps its
token. -/
theorem ground_served (w : Relay) (c : Nat) (x : ConsumeCall) (s : Session) :
    (w.served c x s).ground = ((w.ground.enlist c).modify x.session fun h =>
      h.staffed c x.token s (x.topics.flatMap w.broker.partitions)).setCall c .serving := by
  rw [← partitions_beginConsume]
  refine congrArg (Ground.setCall · c .serving) ((ground_assign _ x.session _).trans ?_)
  exact Ground.modify_modify (w.ground.enlist c) x.session _ _

theorem ground_abort (w : Relay) (c : Nat) (x : ConsumeCall) (rest : List Nat)
    (failure : Option RelayError) :
    ((w.modifyHosted x.session fun h => { h with ended := rest }).leaveCall c x failure).ground =
      (w.ground.modify x.session fun h => { h.dismiss with ended := rest }).setCall c
        (.leaving failure) := by
  rw [ground_leaveCall, ground_modifyHosted, Ground.modify_modify]
  rfl

/-! ## What they do -/

/-- The claims that a session gets when it is set up. -/
theorem started_staffed (h : Hosted) (c token : Nat) {s : Session} (ps : List Partition)
    (hs : s.claims = h.session.claims) : started (some h) (some (h.staffed c token s ps)) = ps := by
  simp only [started, Hosted.staffed, hs, List.drop_left, List.map_map]
  exact List.map_id ps

theorem failureOf_setup {s : Session} (hi : s.stage = .idle) : failureOf s.setup = none := by
  rw [Session.setup, if_pos hi]
  rfl

theorem failureOf_setup_of_ne {s : Session} (hi : s.stage ≠ .idle) :
    failureOf s.setup = some (Session.misuse "setup" s.stage) := by
  rw [Session.setup, if_neg hi]
  rfl

theorem failureOf_drain_of_ne {s : Session} (ha : s.stage ≠ .active) :
    failureOf s.drain = some (Session.misuse "cleanup" s.stage) := by
  rw [Session.drain, if_neg ha]
  rfl

/-- Setting a session up gives claims to all partitions there are. -/
theorem deeds_of_served {h : Hosted} {s : Session} (hx : w.calls[c]? = some x) (hp : x.phase = .fresh)
    (hk : w.sessions[x.session]? = some h) (hi : h.session.stage = .idle)
    (hs : s.claims = h.session.claims) : deeds c w (w.served c x s) =
      .setup none :: (x.topics.flatMap w.broker.partitions).map .claim := by
  have hg := ground_served w c x s
  have hstart := started_staffed h c x.token (x.topics.flatMap w.broker.partitions) hs
  simp only [deeds, hx, call_of_ground hg hx, hp, hk, session_of_ground hg hk, hstart]
  rw [Option.map_some, failureOf_setup hi]
  rfl

theorem performs_of_beginCall (hx : w.calls[c]? = some x) (hp : x.phase = .fresh)
    (hg : w.broker.isClosed x.group = false) :
    w.Performs c x (deeds c w (w.beginCall c x)) (w.beginCall c x) := by
  have hend : ∀ (u : Relay) failure, u.calls = w.calls → (u.endCall c failure).calls[c]? =
      some { x with phase := .ended failure } := fun u failure hu =>
    call_of_ground (G := u.ground) rfl ((congrArg (·[c]?) hu).trans hx)
  unfold beginCall
  dsimp only
  split
  · next hb =>
    replace hb : w.broker.beginConsume.1 = false := by simpa using hb
    simp only [deeds, hx, hend { w with broker := w.broker.beginConsume.2 } _ rfl, hp, hg, hb]
    exact .fail _ hp hg (.inl ⟨hb, rfl⟩)
  · next hb =>
    replace hb : w.broker.beginConsume.1 = true := by simpa using hb
    split
    · next hk =>
      simp only [deeds, hx, hend { w with broker := w.broker.beginConsume.2 } _ rfl, hp, hg, hb, hk]
      exact .fail _ hp hg (.inr ⟨hk, rfl⟩)
    · next h hk =>
      by_cases hi : h.session.stage = .idle
      · have hds := deeds_of_served (c := c) (s := { h.session with
          stage := .active, confirmer := .asking, cancelled := w.isCancelled x.token }) hx hp hk hi rfl
        have hm := Performs.begin (c := c) hp hg hb hk hi
        rw [← hds] at hm
        simp only [Session.setup, if_pos hi]
        exact hm
      · have hds : deeds c w (endCall (unlist (enlist { w with broker := w.broker.beginConsume.2 } c) c)
            c (some (Session.misuse "setup" h.session.stage))) =
            [.setup (some (Session.misuse "setup" h.session.stage)),
              .returned (some (Session.misuse "setup" h.session.stage))] := by
          simp [deeds, hx, hend (unlist (enlist { w with broker := w.broker.beginConsume.2 } c) c) _ rfl,
            hp, hg, hb, hk, failureOf_setup_of_ne hi]
        simp only [Session.setup, if_neg hi]
        rw [hds]
        exact .answers (.unready _ hp hg hb hk)

/-- What the session of a call answers by itself is one of the answers that a handler may give. -/
theorem performs_of_step (hs : w.stepConsume c = some v) :
    ∃ x, w.calls[c]? = some x ∧ w.Performs c x (deeds c w v) v := by
  obtain ⟨x, hx, hm⟩ := callMove_of_step hs
  refine ⟨x, hx, ?_⟩
  -- how far the call has come after a move that sets it to this
  have hy : ∀ (G : Ground) (p : ConsumeCall.Phase), G.calls = w.calls → v.ground = G.setCall c p →
      v.calls[c]? = some { x with phase := p } := fun G p hc hg =>
    call_of_ground hg ((congrArg (·[c]?) hc).trans hx)
  cases hm with
  | refuse hp hg =>
    simp only [deeds, hx, hy w.ground _ rfl rfl, hp, hg]
    exact .refuse hp hg
  | fail _ hp hg | unready _ hp hg | begin hp hg =>
    have hd := performs_of_beginCall hx hp hg
    simp only [stepConsume, hx, hp, hg, Bool.false_eq_true, if_false] at hs
    exact Option.some.inj hs ▸ hd
  | leave hp hk hr =>
    have hd := hy _ _ rfl (ground_leaveCall w c x _)
    rcases hr with ⟨hg, rfl⟩ | ⟨hg, hc, rfl⟩
    · simp only [deeds, hx, hd, hp, hg]
      exact .close hp hk hg
    · simp only [deeds, hx, hd, hp, hg]
      exact .cancel hp hk hg hc
  | @look h i rest hp hk _ _ he hf =>
    have hd : (w.modifyHosted x.session fun h => { h with ended := rest }).calls[c]? = some x := hx
    simp only [deeds, hx, hd, hp]
    exact .look hp hk he hf
  | abort hp hk hg hc he hf =>
    simp only [deeds, hx, hy _ _ rfl (ground_abort w c x _ _), hp, hg]
    exact .abort hp hk hg hc he hf
  | drain hp hk hf hc ha =>
    simp only [deeds, hx, hy (w.ground.modify x.session _) _ rfl rfl, hp]
    exact .drain hp hk hf hc ha
  | @giveUp h failure hp hk hf hc hn =>
    have hds : deeds c w ((w.unlist c).endCall c
        (some (failure.getD (Session.misuse "cleanup" h.session.stage)))) =
        [.cleanup, .cleaned (some (Session.misuse "cleanup" h.session.stage)),
          .returned (some (failure.getD (Session.misuse "cleanup" h.session.stage)))] := by
      simp [deeds, hx, hy (w.ground.unlist c) _ rfl rfl, hp, hk, failureOf_drain_of_ne hn]
    rw [hds]
    exact .answers (.giveUp _ hp hk hf hc)
  | close hp hk hd hc =>
    simp only [deeds, hx, hy ((w.ground.modify x.session _).unlist c) _ rfl rfl, hp]
    exact .finish hp hk hd hc

end Sluice.Relay
