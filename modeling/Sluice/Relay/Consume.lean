import Sluice.Relay.State
/-!
# Consume calls

A call serves one session of a group: it sets the session up, gives every partition of its topics a
claim and a feeder, waits until the session is over, tells all its tasks to end, waits for them, and
cleans up. It is over when the group is closed, when the session's token is cancelled, or when a
claim ends with a failure.

* `Relay.stepSession`: the moves of a session's own tasks.
* `Relay.stepFeeder`, `Relay.stepStraggler`: the moves of a feeder.
* `Relay.stepConsume`: the moves of a call.
-/
namespace Sluice.Relay

/-- How many items the queue of a claim holds (`CLAIM_BUFFER`). -/
def queueLimit : Nat := 16

/-! ## Ending sessions -/

/-- All tasks of a session that its token ends, the host last. -/
def endSession (w : Relay) (k : Nat) : Relay :=
  match w.sessions[k]? with
  | none => w
  | some h =>
    if h.session.cancelled then w
    else
      let w := w.modifyHosted k fun h => { h with session := { h.session with cancelled := true } }
      let pairs := (List.range h.session.claims.length).flatMap fun i =>
        [Task.feeder k i, Task.claim k i]
      (w.wakeAll pairs).wakeHost k

/-- Whether a session is being served: it can still be told to end. -/
def isServed (w : Relay) (k : Nat) : Bool :=
  match w.sessions[k]? with
  | none => false
  | some h => h.host.isSome && !h.session.cancelled

/-- The session of a call. -/
def sessionOf (w : Relay) (c : Nat) : Option Nat := w.calls[c]?.map ConsumeCall.session

/-- Cancels all tokens that the broker keeps, and keeps none of them (`trigger_rebalance`). -/
def rebalance (w : Relay) : Relay :=
  (w.listed.filterMap w.sessionOf).foldl endSession { w with listed := [] }

/-- Cancels a token: the sessions under it end, the newest first, and whoever waits on it is woken. -/
def cancel (w : Relay) (token : Nat) : Relay :=
  if w.isCancelled token then w
  else
    let below (k : Nat) : Bool :=
      w.isServed k && (w.sessions[k]?.map Hosted.token == some token)
    let w := { w with cancelled := token :: w.cancelled }
    let w := ((List.range w.sessions.length).filter below).reverse.foldl endSession w
    if token = rootToken ∧ w.supervisor.isSome then
      (w.wakeAll [.loop, .forwarder, .refresher]).wakeCallers
    else w

/-- Leaves a group (`close`). The calls that serve its sessions are woken. -/
def leaveGroup (w : Relay) (g : Nat) : Relay :=
  if w.broker.isClosed g then w
  else
    let serving := w.calls.zipIdx.filter fun (c, _) => c.group == g && c.phase == .serving
    (serving.map Prod.snd).foldl wakeCall { w with broker := w.broker.leave g }

/-! ## The tasks of a session -/

/-- Takes over what a move of session `k` has changed. -/
def settleMove (w : Relay) (k : Nat) (move : Session × Books × List Session.Signal) : Relay :=
  let (s, b, signals) := move
  signals.foldl (signal k) { w.modifyHosted k fun h => { h with session := s } with books := b }

/-- The next move of a task of session `k`. -/
def stepSession (w : Relay) (k : Nat) (t : Session.Task) : Option Relay :=
  match w.sessions[k]? with
  | none => none
  | some h => (h.session.step h.rules k t w.books).map (w.settleMove k)

/-! ## Feeders -/

/-- Wakes the host of a session, if it waits for the session's tasks to end. -/
def wakeLeavingHost (w : Relay) (k : Nat) : Relay :=
  match (w.sessions[k]?.bind Hosted.host).bind fun c => w.calls[c]? with
  | some ⟨_, _, _, _, .leaving _⟩ => w.wakeHost k
  | _ => w

/-- Ends a feeder (`feed_claim` returns). No more items come into the queue of its claim. -/
def endFeeder (w : Relay) (k i : Nat) : Relay :=
  let w := w.modifyFeeder k i fun f => { f with phase := .ended }
  ((w.modifyClaim k i fun c => { c with isOpen := false }).wakeClaim k i).wakeLeavingHost k

/-- Puts an item into the queue of a claim (`send` in `feed_claim`). -/
def feed (w : Relay) (k i : Nat) (item : Item) : Relay :=
  (w.modifyClaim k i fun c => c.push item).wakeClaim k i

/-- Where a feeder begins: at the stored offset, or else with the first message (`feed_claim`, its
first `offset`). -/
def startOffset (store : OffsetStore) (p : Partition) : Nat := ((store.position p).getD 0).toNat

/-- The next move of feeder `i` of session `k` (`feed_claim`). -/
def stepFeeder (w : Relay) (k i : Nat) : Option Relay :=
  match w.sessions[k]? with
  | none => none
  | some h =>
    match h.feeders[i]?, h.session.claims[i]? with
    | some f, some c =>
      match f.phase with
      | .fresh =>
        let (fails, broker) := w.broker.takeClaimFault
        let w := { w with broker := broker }
        if fails then
          some ((w.feed k i (.failure (.consume "injected claim error"))).endFeeder k i)
        else
          some (w.modifyFeeder k i fun f =>
            let n := startOffset w.books.store f.source
            { f with first := n, next := n, phase := .feeding })
      | .ended => none
      | p =>
        if h.session.cancelled then some (w.endFeeder k i)
        else
          match (w.broker.log f.source)[f.next]? with
          | none =>
            if p = .parked then none
            else some (w.modifyFeeder k i fun f => { f with phase := .parked })
          | some m =>
            if c.hasEnded then some (w.endFeeder k i)
            else if c.queue.backlog < queueLimit then
              some ((w.modifyFeeder k i fun f => { f with next := f.next + 1, phase := .feeding }).feed
                k i (.message m))
            else if p = .blocked then none
            else some (w.modifyFeeder k i fun f => { f with phase := .blocked })
    | _, _ => none

/-- The other move of feeder `i` of session `k` once the session has been told to end: between an end
and a message for which there is room `feed_claim` chooses at random. -/
def stepStraggler (w : Relay) (k i : Nat) : Option Relay :=
  match w.sessions[k]? with
  | none => none
  | some h =>
    match h.feeders[i]?, h.session.claims[i]? with
    | some f, some c =>
      if !h.session.cancelled || f.phase == .fresh || f.phase == .ended then none
      else
        match (w.broker.log f.source)[f.next]? with
        | none => none
        | some m =>
          if !c.hasEnded && c.queue.backlog < queueLimit then
            some ((w.modifyFeeder k i fun f => { f with next := f.next + 1, phase := .feeding }).feed
              k i (.message m))
          else none
    | _, _ => none

/-! ## Calls -/

/-- Ends a call (`consume` returns). -/
def endCall (w : Relay) (c : Nat) (failure : Option RelayError) : Relay :=
  w.setCall c (.ended failure)

/-- The broker keeps the session token of a call (`consume`, the `push` onto its `sessions`). -/
def enlist (w : Relay) (c : Nat) : Relay := { w with listed := w.listed ++ [c] }

/-- Whether the session of a call has been told to end. -/
def isOver (w : Relay) (c : Nat) : Bool :=
  ((w.sessionOf c).bind fun k => w.sessions[k]?).any fun h => h.session.cancelled

/-- The session token of a call has been cancelled: the broker lets go of all tokens that have been
(`consume`, the `retain` of its `sessions`). -/
def unlist (w : Relay) (c : Nat) : Relay :=
  { w with listed := w.listed.filter fun d => d ≠ c && !w.isOver d }

/-- Gives every partition a feeder and a claim (`consume`, the loop over its topics). -/
def assign (w : Relay) (k : Nat) (ps : List Partition) : Relay :=
  let w := w.modifyHosted k fun h =>
    { h with
      session := ps.foldl (fun s p => s.start p.topic p.index) h.session
      feeders := ps.map fun p => ⟨p, 0, 0, .fresh⟩ }
  w.wakeAll ((List.range ps.length).flatMap fun i => [.feeder k i, .claim k i])

/-- Sets the session of a call up and starts its tasks (`consume`, until it waits). -/
def beginCall (w : Relay) (c : Nat) (x : ConsumeCall) : Relay :=
  let (may, broker) := w.broker.beginConsume
  let w := { w with broker := broker }
  if !may then w.endCall c (some (.consume "injected consume failure"))
  else
    match w.sessions[x.session]? with
    | none => w.endCall c none
    | some h =>
      let w := w.enlist c
      match h.session.setup with
      | .error e => (w.unlist c).endCall c (some e)
      | .ok s =>
        let s := { s with cancelled := w.isCancelled x.token }
        let w := { w with books := w.books.count .session }
        let w := w.modifyHosted x.session fun h =>
          { h with session := s, token := x.token, host := some c }
        let partitions := x.topics.flatMap w.broker.partitions
        ((w.wake (.confirmer x.session)).assign x.session partitions).setCall c .serving

/-- Tells the tasks of a call's session to end (`consume`, after its loop). -/
def leaveCall (w : Relay) (c : Nat) (x : ConsumeCall) (failure : Option RelayError) : Relay :=
  (w.endSession x.session).setCall c (.leaving failure)

/-- The next move of call `c` (`consume`). -/
def stepConsume (w : Relay) (c : Nat) : Option Relay :=
  match w.calls[c]? with
  | none => none
  | some x =>
    match x.phase with
    | .fresh =>
      if w.broker.isClosed x.group then some (w.endCall c (some .groupClosed))
      else some (w.beginCall c x)
    | .serving =>
      match w.sessions[x.session]? with
      | none => none
      | some h =>
        if w.broker.isClosed x.group then some (w.leaveCall c x (some .groupClosed))
        else if h.session.cancelled then some (w.leaveCall c x none)
        else
          match h.ended with
          | [] => none
          | i :: rest =>
            let w := w.modifyHosted x.session fun h => { h with ended := rest }
            match h.session.claims[i]?.bind Claim.failure? with
            | none => some w
            | some e => some (w.leaveCall c x (some e))
    | .leaving failure =>
      match w.sessions[x.session]? with
      | none => none
      | some h =>
        if (h.feeders.all fun f => f.phase == .ended) && h.session.claims.all Claim.hasEnded then
          match h.session.drain with
          | .error e => some ((w.unlist c).endCall c (some (failure.getD e)))
          | .ok s =>
            let w := w.modifyHosted x.session fun h => { h with session := s }
            some ((w.wake (.confirmer x.session)).setCall c (.cleaning failure))
        else none
    | .cleaning failure =>
      (w.sessions[x.session]?.bind fun h => h.session.close?).map fun s =>
        ((w.modifyHosted x.session fun h => { h with session := s }).unlist c).endCall c failure
    | .ended _ => none

/-- Adds a session that has not been set up (`SessionHandler.new`). -/
def addSession (w : Relay) (settings : Settings) : Nat × Relay :=
  (w.sessions.length,
    { w with sessions := w.sessions ++
      [⟨settings.rules, Session.ofCapacity settings.maxUndelivered, [], [], rootToken, none⟩] })

/-- Adds a call that has not begun. -/
def addCall (w : Relay) (group session : Nat) (topics : List String) (token : Nat) : Nat × Relay :=
  (w.calls.length, { w with calls := w.calls ++ [⟨group, session, topics, token, .fresh⟩] })

end Sluice.Relay
