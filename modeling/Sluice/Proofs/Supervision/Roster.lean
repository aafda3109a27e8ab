import Sluice.Proofs.Lists
import Sluice.Relay
/-!
# The roster of a relay

Of a relay, `Relay.roster` keeps what decides who serves whom: the supervisor and its callers, the
calls, how far every session and its confirmer have come, the groups with their errors, and how
often groups and clients were opened and closed. Messages, queues, slots, timers and the line of
woken tasks are left out.

`Roster.Change` lists all that can happen to a roster, each with the news that it makes: an error
that a group takes, one that is passed on, one that nobody will read any more, a group that is
installed. A step of a relay is a few such changes after each other (`Roster.Changes`), so whatever
is shown of supervisors is shown by going through this list.
-/
namespace Sluice

/-- What the roster keeps of a session. -/
structure Post where
  stage : Session.Stage
  confirmer : Session.Confirmer
  /-- Whether the session has been told to end. -/
  cancelled : Bool
  token : Nat
  host : Option Nat
  /-- How many claims the session has. -/
  claims : Nat
  /-- How many feeders the session has. -/
  feeders : Nat
  deriving DecidableEq, Repr

namespace Post

/-- A session that has not been set up. -/
def idle : Post := ⟨.idle, .absent, false, Relay.rootToken, none, 0, 0⟩

/-- The session is told to end. -/
def dismiss (p : Post) : Post := { p with cancelled := true }

/-- Whether the session is one that somebody hosts. -/
def isHosted (p : Post) : Bool := p.host.isSome

/-- Whether the session is one that ends with the supervisor. -/
def isSupervised (p : Post) : Bool := p.isHosted && p.token == Relay.rootToken

end Post

/-- What the roster keeps of a session. -/
def Hosted.post (h : Hosted) : Post :=
  ⟨h.session.stage, h.session.confirmer, h.session.cancelled, h.token, h.host,
    h.session.claims.length, h.feeders.length⟩

/-- Who serves whom. -/
structure Roster where
  supervisor : Option Supervisor
  callers : List Caller
  /-- Whether the supervisor has been told to end. -/
  stopped : Bool
  calls : List ConsumeCall
  posts : List Post
  groups : List Group
  /-- How many clients were opened, and how many closed. -/
  opened : Nat
  shut : Nat
  /-- How many groups were joined, and how many left. -/
  joined : Nat
  left : Nat
  swaps : Nat
  /-- All that was ever reported. -/
  reports : List Report

/-- Who serves whom in a relay. -/
def Relay.roster (w : Relay) : Roster :=
  ⟨w.supervisor, w.callers, w.isStopped, w.calls, w.sessions.map Hosted.post, w.broker.groups,
    w.broker.calls.metadataConnects, w.broker.calls.metadataCloses, w.broker.calls.groupConnects,
    w.broker.calls.groupCloses, w.books.metrics.swaps, w.books.sink.errors.items⟩

/-- What is told of groups and their errors. -/
inductive Notice where
  /-- A group takes an error. -/
  | accepted (group : Nat) (e : RelayError)
  /-- An error of a group is passed on to the operator. -/
  | forwarded (group : Nat) (e : RelayError)
  /-- A group is replaced while this error of it is unread. -/
  | missed (group : Nat) (e : RelayError)
  /-- A group is installed for a list of topics. -/
  | installed (group : Nat) (topics : List String)
  deriving DecidableEq, Repr

/-- How an error is shown. -/
def RelayError.report (e : RelayError) : Report := ⟨e.message, e.severity⟩

/-- A supervisor that was just started. -/
def Supervisor.first (settings : Settings) (due : Nat) : Supervisor :=
  ⟨settings, [], none, 0, .top, .watching 0 none, .waiting due, true, false⟩

/-- The supervisor after a group was installed. -/
def Supervisor.install (s : Supervisor) (topics : List String) (group : Nat) : Supervisor :=
  { s with topics := topics, group := some group, generation := s.generation + 1 }

namespace Roster

/-- The roster of a supervisor that was just started. -/
def first (s : Supervisor) : Roster := ⟨some s, [], false, [], [], [], 0, 0, 0, 0, 0, []⟩

/-! ## Changing one part -/

/-- Sets the supervisor. -/
def put (R : Roster) (s : Supervisor) : Roster := { R with supervisor := some s }

/-- Changes what is kept of a session. -/
def modifyPost (R : Roster) (k : Nat) (f : Post → Post) : Roster :=
  { R with posts := R.posts.modify k f }

/-- Tells the sessions of a kind to end. -/
def dismiss (R : Roster) (which : Post → Bool) : Roster :=
  { R with posts := R.posts.map fun p => if which p then p.dismiss else p }

/-- The supervisor is told to end, and its sessions with it. -/
def stop (R : Roster) : Roster :=
  { R with
    stopped := true
    posts := R.posts.map fun p => if p.isSupervised then p.dismiss else p }

/-- Sets how far a call has come. -/
def setCall (R : Roster) (c : Nat) (p : ConsumeCall.Phase) : Roster :=
  { R with calls := R.calls.modify c fun x => { x with phase := p } }

/-- Sets how a caller stands. -/
def setCaller (R : Roster) (i : Nat) (p : Caller.Phase) : Roster :=
  { R with callers := R.callers.modify i fun c => { c with phase := p } }

/-- Shows an error to the operator. -/
def report (R : Roster) (e : RelayError) : Roster := { R with reports := R.reports ++ [e.report] }

/-- Changes a group. -/
def modifyGroup (R : Roster) (g : Nat) (f : Group → Group) : Roster :=
  { R with groups := R.groups.modify g f }

/-- Whether a group has been closed. -/
def isClosed (R : Roster) (g : Nat) : Bool := (R.groups[g]?.map Group.closed).getD true

/-- The errors of a group that nobody has read. -/
def unread (R : Roster) (g : Nat) : List RelayError := (R.groups[g]?.map Group.errors).getD []

/-- Leaves a group, once. -/
def leave (R : Roster) (g : Nat) : Roster :=
  if R.isClosed g then R
  else { R.modifyGroup g fun x => { x with closed := true } with left := R.left + 1 }

/-- Leaves a group, if there is one. -/
def leave? (R : Roster) : Option Nat → Roster
  | none => R
  | some g => R.leave g

/-- Takes the stream of a group's errors, if it is there. -/
def takeStream (R : Roster) (g : Nat) : Roster :=
  R.modifyGroup g fun x => if x.stream = .kept then { x with stream := .taken } else x

/-- Throws away the stream of a group's errors, if there is one. -/
def dropStream? (R : Roster) : Option Nat → Roster
  | none => R
  | some g => R.modifyGroup g fun x => { x with stream := .dropped, errors := [] }

/-- The topics are looked up. -/
def look (R : Roster) : Roster := { R with opened := R.opened + 1, shut := R.shut + 1 }

/-- A group is joined. -/
def join (R : Roster) : Roster := { R with groups := R.groups ++ [.fresh], joined := R.joined + 1 }

/-- A group that was joined after the end is left and thrown away. -/
def discard (R : Roster) : Roster :=
  { R with
    groups := R.groups ++ [⟨true, .dropped, []⟩]
    joined := R.joined + 1
    left := R.left + 1 }

/-- A group is joined and installed for a list of topics; the group before it is left. -/
def install (R : Roster) (s : Supervisor) (topics : List String) : Roster :=
  let S := R.join.put (s.install topics R.groups.length)
  match s.group with
  | none => S
  | some old => ({ S with swaps := S.swaps + 1 } : Roster).leave old

/-- What is told when a group is installed: first the errors of the group before it that are still
unread. -/
def succession (R : Roster) (s : Supervisor) (topics : List String) : List Notice :=
  (s.group.toList.flatMap fun old => (R.unread old).map (.missed old)) ++
    [.installed R.groups.length topics]

/-- A session is added, and a call that serves it on a group. -/
def serve (R : Roster) (s : Supervisor) (group : Nat) : Roster :=
  let S : Roster := { R with
    calls := R.calls ++ [⟨group, R.posts.length, s.topics, Relay.rootToken, .fresh⟩]
    posts := R.posts ++ [Post.idle] }
  S.put { s with loop := .serving R.calls.length s.generation }

/-- The forwarder turns to the present group. -/
def follow (R : Roster) (s : Supervisor) (reading : Option Nat) : Roster :=
  let there := (s.group.bind fun g => R.groups[g]?.map fun x => x.stream == .kept).getD false
  let S := match s.group with
    | none => R
    | some g => R.takeStream g
  (S.dropStream? reading).put
    { s with forwarder := .watching s.generation (if there then s.group else none) }

theorem modifyPost_same (R : Roster) (k : Nat) : R.modifyPost k (fun p => p) = R := by
  unfold modifyPost
  rw [show (fun p : Post => p) = id from rfl, List.modify_id]

theorem modifyPost_modifyPost (R : Roster) (k : Nat) (f g : Post → Post) :
    (R.modifyPost k f).modifyPost k g = R.modifyPost k fun p => g (f p) := by
  unfold modifyPost
  simp only [List.modify_modify_eq]
  rfl

theorem modifyPost_eq {R : Roster} {k : Nat} {p : Post} {f g : Post → Post}
    (hk : R.posts[k]? = some p) (h : f p = g p) : R.modifyPost k f = R.modifyPost k g := by
  unfold modifyPost
  rw [modify_congr R.posts k (f := f) (g := g) fun a ha => by rw [hk] at ha; cases ha; exact h]

/-- Whether the consume loop serves no session at the moment. -/
def IsFree (R : Roster) : Supervisor.Loop → Prop
  | .top => True
  | .pausing _ => True
  | .serving c _ => ∃ x failure, R.calls[c]? = some x ∧ x.phase = .ended failure
  | .ended => False
  | .crashed => False

/-! ## All that can happen -/

/-- What can happen to a roster, and the news of it. -/
inductive Change (R : Roster) : List Notice → Roster → Prop where
  /-- The confirmer of a session goes on. -/
  | confirm {k p} (f : Session.Confirmer) : R.posts[k]? = some p → p.confirmer ≠ .absent →
      p.confirmer ≠ .ended → f ≠ .absent →
      Change R [] (R.modifyPost k fun p => { p with confirmer := f })
  /-- An error is shown to the operator. -/
  | report (e : RelayError) : Change R [] (R.report e)
  /-- A call ends before it has set its session up. -/
  | refuse {c x} (failure : Option RelayError) : R.calls[c]? = some x → x.phase = .fresh →
      Change R [] (R.setCall c (.ended failure))
  /-- A call sets its session up, with some claims and a feeder for each. -/
  | begin {c x p} (dismissed : Bool) (n : Nat) : R.calls[c]? = some x → x.phase = .fresh →
      R.posts[x.session]? = some p → p.stage = .idle →
      (x.token = Relay.rootToken → dismissed = R.stopped) →
      Change R [] ((R.modifyPost x.session fun p =>
        ⟨.active, .asking, dismissed, x.token, some c, p.claims + n, n⟩).setCall c .serving)
  /-- A call tells its session to end. -/
  | leave {c x} (failure : Option RelayError) : R.calls[c]? = some x → x.phase = .serving →
      Change R [] ((R.modifyPost x.session Post.dismiss).setCall c (.leaving failure))
  /-- A call begins to clean its session up. -/
  | drain {c x p failure} : R.calls[c]? = some x → x.phase = .leaving failure →
      R.posts[x.session]? = some p → p.stage = .active →
      Change R [] ((R.modifyPost x.session fun p => { p with stage := .draining }).setCall c
        (.cleaning failure))
  /-- A call finds that its session is not there to be cleaned up. -/
  | giveUp {c x p failure} (failure' : Option RelayError) : R.calls[c]? = some x →
      x.phase = .leaving failure → R.posts[x.session]? = some p → p.stage ≠ .active →
      Change R [] (R.setCall c (.ended failure'))
  /-- A call ends with the session that it has cleaned up. -/
  | close {c x p failure} : R.calls[c]? = some x → x.phase = .cleaning failure →
      R.posts[x.session]? = some p → p.stage = .draining → p.confirmer = .ended →
      Change R [] ((R.modifyPost x.session fun p => { p with stage := .closed }).setCall c
        (.ended failure))
  /-- Every session that somebody hosts is told to end. -/
  | rebalance : Change R [] (R.dismiss Post.isHosted)
  /-- The supervisor is told to end, and its sessions with it. -/
  | stop : Change R [] R.stop
  /-- The topics are looked up. -/
  | look : Change R [] R.look
  | discard : R.stopped = true → Change R [] R.discard
  | install {s} (topics : List String) : R.supervisor = some s → R.stopped = false →
      Change R (R.succession s topics) (R.install s topics)
  /-- The consume loop pauses, or looks at the membership again. -/
  | turn {s} (p : Supervisor.Loop) : R.supervisor = some s → R.IsFree s.loop →
      (p = .top ∨ ∃ moment, p = .pausing moment) → Change R [] (R.put { s with loop := p })
  | endLoop {s} : R.supervisor = some s → R.stopped = true → R.IsFree s.loop →
      Change R [] ((R.leave? s.group).put { s with loop := .ended })
  | crash {s} : R.supervisor = some s → s.loop = .top →
      Pending.fits s.settings.maxUndelivered = false →
      Change R [] (R.put { s with loop := .crashed })
  | serve {s g} : R.supervisor = some s → s.loop = .top → s.group = some g → R.stopped = false →
      Change R [] (R.serve s g)
  | endForwarder {s seen reading} : R.supervisor = some s → R.stopped = true →
      s.forwarder = .watching seen reading →
      Change R [] ((R.dropStream? reading).put { s with forwarder := .ended })
  | follow {s seen reading} : R.supervisor = some s → R.stopped = false →
      s.forwarder = .watching seen reading → s.generation ≠ seen →
      Change R [] (R.follow s reading)
  | forward {s g e rest} : R.supervisor = some s → R.stopped = false →
      s.forwarder = .watching s.generation (some g) → R.unread g = e :: rest →
      Change R [.forwarded g e] ((R.modifyGroup g fun x => { x with errors := rest }).report e)
  | endRefresher {s} : R.supervisor = some s → R.stopped = true →
      Change R [] (R.put { s with refresher := .ended })
  | postpone {s due} (due' : Nat) : R.supervisor = some s → s.refresher = .waiting due →
      Change R [] (R.put { s with refresher := .waiting due' })
  /-- The newest group takes an error. -/
  | accept {x} (e : RelayError) : R.groups.getLast? = some x → x.stream ≠ .dropped →
      Change R [.accepted (R.groups.length - 1) e]
        (R.modifyGroup (R.groups.length - 1) fun x => { x with errors := x.errors ++ [e] })
  /-- Somebody asks the supervisor for something. -/
  | call (kind : Caller.Kind) : Change R [] { R with callers := R.callers ++ [⟨kind, .fresh⟩] }
  /-- A caller waits for the first group. -/
  | wait {i} : R.callers[i]? = some ⟨.connected, .fresh⟩ → Change R [] (R.setCaller i .waiting)
  /-- A caller takes over to wait for the tasks. -/
  | takeOver {s i c} : R.supervisor = some s → R.callers[i]? = some c → c.kind ≠ .connected →
      c.phase = .fresh → s.awaited = false → (c.kind = .shutdown → R.stopped = true) →
      Change R [] ((R.put { s with awaited := true }).setCaller i .waiting)
  /-- A caller gets its answer. One that asked for the end of the tasks has waited for it, or
  somebody else had taken over. -/
  | answer {s i c} (b : Bool) : R.supervisor = some s → R.callers[i]? = some c →
      (c.kind = .connected ∨
        c.phase = .fresh ∧ s.awaited = true ∧ (c.kind = .shutdown → R.stopped = true) ∨
        c.phase = .waiting ∧ s.hasEnded = true) →
      Change R [] (R.setCaller i (.done b))
  | abandon {i c} : R.callers[i]? = some c → c.hasEnded = false →
      Change R [] (R.setCaller i .abandoned)
  /-- Whoever started the supervisor lets go of it. -/
  | release {s} : R.supervisor = some s → Change R [] (R.put { s with held := false })

/-- A few changes after each other, with all the news of them. -/
inductive Changes : Roster → List Notice → Roster → Prop where
  | none (R : Roster) : Changes R [] R
  | next {R S T : Roster} {ns ms : List Notice} : R.Change ns S → S.Changes ms T →
      Changes R (ns ++ ms) T

variable {R S T : Roster} {ns ms : List Notice}

theorem Change.once (h : R.Change ns S) : R.Changes ns S := by
  have := Changes.next h (.none S)
  rwa [List.append_nil] at this

theorem Changes.append (h : R.Changes ns S) (h' : S.Changes ms T) : R.Changes (ns ++ ms) T := by
  induction h with
  | none => exact h'
  | next hc _ ih =>
    rw [List.append_assoc]
    exact .next hc (ih h')

/-- Quiet changes may be put in front. -/
theorem Changes.quietly (h : R.Changes [] S) (h' : S.Changes ms T) : R.Changes ms T := h.append h'

/-- Quiet changes may follow. -/
theorem Changes.andQuietly (h : R.Changes ns S) (h' : S.Changes [] T) : R.Changes ns T := by
  have := h.append h'
  rwa [List.append_nil] at this

/-- What every change keeps is kept by a few. -/
theorem Changes.holds {P : Roster → Prop} (h : R.Changes ns S)
    (hp : ∀ {R S ns}, P R → Change R ns S → P S) (h0 : P R) : P S := by
  induction h with
  | none => exact h0
  | next hc _ ih => exact ih (hp h0 hc)

end Roster
end Sluice
