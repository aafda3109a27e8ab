import Sluice.Books
import Sluice.Claim
import Sluice.Pending
import Sluice.Settings
/-!
# Sessions

A session is set up once, serves claims, and is cleaned up once. Its claims read messages within
the session's window; its confirmer applies the results that come from the sink.

A message that a claim has read has one of three fates. Over the length limit it is marked as done
and skipped. Without records it is skipped and not marked. Otherwise its records are submitted, and
it waits, with its slot, for the result of that group.

`stepClaim` and `stepConfirmer` are the moves of the tasks of a session; a task that cannot move has
no step. Each move tells whom it lets go on: the list of signals. Where a definition models one
function, that function is named in brackets.
-/
namespace Sluice

/-- How messages are handled: the length limit (nought for none), the tag that gets the topic, and
how payloads are read. -/
structure Rules where
  maxLen : Nat
  topicTag : Option String
  parse : List UInt8 → Except RelayError (List Record)

/-- How messages are handled under settings. -/
def Settings.rules (s : Settings) : Rules := ⟨s.maxMessageLen, s.topicTag, Payload.parse s.layout⟩

namespace Rules

/-- Whether a message is over the length limit (`handle_message`, first branch). -/
def tooLong (r : Rules) (m : Message) : Bool := r.maxLen > 0 && m.size > r.maxLen

/-- The records of a message as they are submitted: with the topic as a tag, if that is wanted
(`handle_message`, after `parse`). -/
def tagged (r : Rules) (m : Message) (records : List Record) : List Record :=
  match r.topicTag with
  | none => records
  | some tag => records.map fun x => x.addTag tag m.topic

end Rules

namespace Session

/-- How far a session has come (`SessionState`). -/
inductive Stage where
  | idle
  | active
  | draining
  | closed
  deriving DecidableEq, Repr

/-- The name of a stage. -/
def Stage.name : Stage → String
  | .idle => "Idle"
  | .active => "Active"
  | .draining => "Draining"
  | .closed => "Closed"

/-- What the confirmer of a session does (`run_confirmations`). -/
inductive Confirmer where
  /-- It does not exist yet. -/
  | absent
  /-- It is about to ask for the stream of results. -/
  | asking
  /-- It stands in line for the stream. -/
  | queued
  /-- It has the stream and waits for a result. -/
  | reading
  /-- The session is being cleaned up: it takes what results are left. -/
  | draining
  | ended
  deriving DecidableEq, Repr

/-- Who may go on after a move of a session's task. -/
inductive Signal where
  /-- A claim of this session was granted a slot. -/
  | claim (i : Nat)
  /-- The confirmer of session `k` was granted the stream of results. -/
  | stream (k : Nat)
  /-- A result was queued. -/
  | delivery
  /-- An item was taken from the queue of a claim. -/
  | room (i : Nat)
  /-- A claim has ended. -/
  | ended (i : Nat)
  /-- The confirmer has ended. -/
  | confirmed
  deriving DecidableEq, Repr

end Session

/-- A session with its window and its claims (`SessionHandler`). -/
structure Session where
  stage : Session.Stage
  window : Window
  /-- The messages that wait for a result. -/
  pending : Pending Message
  claims : List Claim
  /-- Whether the session has been told to end. -/
  cancelled : Bool
  confirmer : Session.Confirmer

namespace Session

/-- A session that has not been set up, with a window of this capacity (`SessionHandler.new`). -/
def ofCapacity (n : Nat) : Session := ⟨.idle, Window.ofCapacity n, [], [], false, .absent⟩

/-- A session that was used out of order. -/
def misuse (call : String) (s : Stage) : RelayError :=
  .session (call ++ " called in state " ++ s.name)

/-- Sets the session up and starts its confirmer (`setup`). -/
def setup (s : Session) : Except RelayError Session :=
  if s.stage = .idle then .ok { s with stage := .active, confirmer := .asking }
  else .error (misuse "setup" s.stage)

/-- Begins to clean the session up (`cleanup`, until it waits for the confirmer). -/
def drain (s : Session) : Except RelayError Session :=
  if s.stage = .active then .ok { s with stage := .draining }
  else .error (misuse "cleanup" s.stage)

/-- Ends the session, once its confirmer has ended (`cleanup`, from there on). -/
def close? (s : Session) : Option Session :=
  if s.stage = .draining ∧ s.confirmer = .ended then some { s with stage := .closed } else none

/-- Starts a claim (`Claim.new`). -/
def start (s : Session) (topic : String) (partition : Int) : Session :=
  { s with claims := s.claims ++ [Claim.start topic partition] }

/-- Changes a claim. -/
def modify (s : Session) (i : Nat) (f : Claim → Claim) : Session :=
  { s with claims := s.claims.modify i f }

/-- Sets what a claim does. -/
def setPhase (s : Session) (i : Nat) (p : Claim.Phase) : Session :=
  s.modify i fun c => { c with phase := p }

/-- The signal for the claim that was granted a slot, if one was. -/
def granted (who : Option Nat) : List Signal := who.toList.map .claim

/-- The signal for the confirmer that was granted the stream, if one was. -/
def streamed (who : Option Nat) : List Signal := who.toList.map .stream

/-- Gives a slot in use back (`Slot.release`). -/
def release (s : Session) : Session × List Signal :=
  let (who, w) := s.window.release
  ({ s with window := w }, granted who)

/-- Handles message `m`, which claim `i` of session `k` has read with a slot in hand
(`handle_message`). -/
def handle (r : Rules) (k i : Nat) (m : Message) (s : Session) (b : Books) :
    Session × Books × List Signal :=
  let b := b.count .received
  if r.tooLong m then
    let (s, woken) := s.release
    (s, ((b.mark m).count .oversize |>.note (.oversize k i m)).report (.tooLarge m.size r.maxLen),
      woken)
  else
    match r.parse m.payload with
    | .error e =>
      let (s, woken) := s.release
      (s, ((b.count .parseFailure).note (.unparsed k i m)).report e, woken)
    | .ok records =>
      let records := r.tagged m records
      let (id, queued, sink) := b.sink.submit records
      let (displaced, pending) := s.pending.store id m
      let s := { s with pending := pending }
      let (s, woken) := match displaced with
        | some _ => s.release
        | none => (s, [])
      (s, ({ b with sink := sink }.count .submitted).note (.submitted k i m id records),
        (if queued then [.delivery] else []) ++ woken)

/-- Ends a claim that has no slot. -/
def finish (s : Session) (i : Nat) (failure : Option RelayError) : Session :=
  s.setPhase i (.ended failure)

/-- Ends a claim that has a slot. -/
def finishReading (s : Session) (i : Nat) (failure : Option RelayError) : Session × List Signal :=
  let (s, woken) := s.release
  (s.finish i failure, woken ++ [.ended i])

/-- The next move of claim `i` of session `k` (`consume_claim`). A session that has been told to end
comes first. -/
def stepClaim (r : Rules) (k i : Nat) (s : Session) (b : Books) :
    Option (Session × Books × List Signal) :=
  match s.claims[i]? with
  | none => none
  | some c =>
    match c.phase with
    | .admitting =>
      if s.cancelled then some (s.finish i none, b, [.ended i])
      else
        match s.window.acquire i with
        | (true, w) => some ({ s with window := w }.setPhase i .reading, b, [])
        | (false, w) => some ({ s with window := w }.setPhase i .queued, b, [])
    | .queued =>
      if s.cancelled then
        let (who, w) := s.window.leave i
        some ({ s with window := w }.finish i none, b, granted who ++ [.ended i])
      else
        (s.window.take i).map fun w => ({ s with window := w }.setPhase i .reading, b, [])
    | .reading =>
      if s.cancelled then
        let (s, woken) := s.finishReading i none
        some (s, b, woken)
      else
        match c.queue.pop? with
        | some (.message m, queue) =>
          let s := s.modify i fun c => { c with queue := queue, phase := .admitting }
          let (s, b, woken) := s.handle r k i m b
          some (s, b, .room i :: woken)
        | some (.failure e, queue) =>
          let s := s.modify i fun c => { c with queue := queue }
          let (s, woken) := s.finishReading i (some e)
          some (s, b, .room i :: woken)
        | none =>
          if c.isOpen then none
          else
            let (s, woken) := s.finishReading i none
            some (s, b, woken)
    | .ended _ => none

/-- Applies a result in session `k`: a delivered message is marked before its slot is free
(`on_delivery_result`). -/
def apply (k : Nat) (d : Delivery) (s : Session) (b : Books) : Session × Books × List Signal :=
  match s.pending.get? d.id with
  | none => (s, (b.count .unknown).note (.unknown k d.id d.delivered), [])
  | some m =>
    let b := if d.delivered then
        ((b.count .delivered).mark m).note (.delivered k m d.id)
      else (b.count .undelivered).note (.undelivered k m d.id)
    let (s, woken) := { s with pending := s.pending.remove d.id }.release
    (s, b, woken)

/-- The next move of the confirmer of session `k` (`run_confirmations`). Once the session is being
cleaned up it lets the stream go and takes what results are left, as long as nobody else has the
stream. -/
def stepConfirmer (k : Nat) (s : Session) (b : Books) : Option (Session × Books × List Signal) :=
  let stream (w : Window) : Books := { b with sink := { b.sink with stream := w } }
  match s.confirmer with
  | .absent => none
  | .asking =>
    if s.stage ≠ .active then some ({ s with confirmer := .draining }, b, [])
    else
      match b.sink.stream.acquire k with
      | (true, w) => some ({ s with confirmer := .reading }, stream w, [])
      | (false, w) => some ({ s with confirmer := .queued }, stream w, [])
  | .queued =>
    if s.stage ≠ .active then
      let (who, w) := b.sink.stream.leave k
      some ({ s with confirmer := .draining }, stream w, streamed who)
    else (b.sink.stream.take k).map fun w => ({ s with confirmer := .reading }, stream w, [])
  | .reading =>
    if s.stage ≠ .active then
      let (who, w) := b.sink.stream.release
      some ({ s with confirmer := .draining }, stream w, streamed who)
    else
      match b.sink.nextDelivery with
      | none => none
      | some (d, sink) =>
        let (who, w) := sink.stream.release
        let (s, b, woken) :=
          { s with confirmer := .asking }.apply k d { b with sink := { sink with stream := w } }
        some (s, b, streamed who ++ woken)
  | .draining =>
    match b.sink.tryNext with
    | none => some ({ s with confirmer := .ended }, b, [.confirmed])
    | some (d, sink) => some (s.apply k d { b with sink := sink })
  | .ended => none

/-- A task of a session. -/
inductive Task where
  | claim (i : Nat)
  | confirmer
  /-- Whoever cleans the session up, and waits for the confirmer. -/
  | cleaner
  deriving DecidableEq, Repr

/-- The next move of a task of session `k`. -/
def step (r : Rules) (k : Nat) (t : Task) (s : Session) (b : Books) :
    Option (Session × Books × List Signal) :=
  match t with
  | .claim i => s.stepClaim r k i b
  | .confirmer => s.stepConfirmer k b
  | .cleaner => s.close?.map fun s => (s, b, [])

end Session
end Sluice
