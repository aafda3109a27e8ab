import Sluice.Proofs.Broker
import Sluice.Proofs.Relay.Punctual
import Sluice.Proofs.Supervision.Setbacks
/-!
# Outages

A supervisor is started while the next lists of topics, connections and calls fail. The failures
come in that order, whoever asks: a list is read before a connection is made, and a call needs a
group. What each of them leaves of the broker and of the books is told by how many there were before.

* `Outage`, `Outage.start`: what is pending, and the relay that is about to run.
* `Outage.lt_tickOf_due`: no refresh is due while failures are left.
* `Outage.books_succ`, `Outage.books_told`: the books after so many failures.
* `Outage.Broke`: the broker after so many failures. `Broke.list_fails`, `Broke.join_fails`,
  `Broke.consume_fails`: the next one. `Broke.listed`, `Broke.joins`, `Broke.consumes_on`: after them.
* `Outage.Unjoined`, `Outage.OnTime`, `Outage.Joins`, `Outage.SetsUp`: what should happen, and when.
-/
namespace Sluice

/-- A supervisor that is started while some of the next calls to the broker fail. -/
structure Outage where
  settings : Settings
  catalog : List (String × Nat)
  logs : List (Partition × List Message)
  /-- How many of the next calls of each kind fail. -/
  faults : Faults
  /-- The moment of the start. -/
  began : Nat
  /-- The delay before the loop tries again, in milliseconds. -/
  delay : Nat
  positive : 0 < delay
  reconnectDelay : settings.reconnectDelay = .ofMillis delay
  matching : ∃ t ∈ catalog, settings.pattern.isMatch t.1 = true
  /-- The topics are not refreshed while the loop still tries. -/
  patient : (Duration.ofMillis ((faults.list + faults.connect + faults.consume) * delay)).nanos <
    settings.refreshInterval.nanos

namespace Outage
open Relay
variable (o : Outage)

/-- The supervisor is about to run. -/
def start : Relay :=
  ({ Relay.empty with
    broker := { Broker.empty with catalog := o.catalog, logs := o.logs, faults := o.faults }
    now := o.began } : Relay).start o.settings

/-- How many failures come before the first group. -/
def beforeJoin : Nat := o.faults.list + o.faults.connect

/-- How many failures come before the first session. -/
def failures : Nat := o.beforeJoin + o.faults.consume

/-- The failures that come before the first session, first to last. -/
def errors : List RelayError :=
  List.replicate o.faults.list (.metadata "injected metadata failure") ++
    (List.replicate o.faults.connect (.connection "injected connection failure") ++
      List.replicate o.faults.consume (.consume "injected consume failure"))

/-- The moment at which the loop tries again after `n` failures. -/
def moment (n : Nat) : Nat := o.began + n * o.delay

/-- The moment of the first refresh, in nanoseconds. -/
def due : Nat := o.began * tick + o.settings.refreshInterval.nanos

/-- The topics that match. -/
def topics : List String := o.settings.pattern.select (o.catalog.map Prod.fst)

theorem topics_ne_nil : o.topics ≠ [] := by
  obtain ⟨t, ht, hm⟩ := o.matching
  exact List.ne_nil_of_mem (Pattern.mem_select.mpr ⟨List.mem_map_of_mem ht, hm⟩)

variable {o}

theorem moment_succ (n : Nat) : o.moment (n + 1) = o.moment n + o.delay := by
  unfold moment
  rw [Nat.succ_mul, Nat.add_assoc]

theorem moment_le {m n : Nat} (h : m ≤ n) : o.moment m ≤ o.moment n :=
  Nat.add_le_add_left (Nat.mul_le_mul_right _ h) _

/-- No refresh is due before the failures are used up. -/
theorem lt_tickOf_due {n : Nat} (h : n ≤ o.failures) : o.moment n < tickOf o.due := by
  have hn : o.moment n * tick ≤ o.moment o.failures * tick := Nat.mul_le_mul_right _ (moment_le h)
  have hlast : o.moment o.failures * tick = o.began * tick + o.failures * o.delay * tick :=
    Nat.add_mul ..
  have hp : o.failures * o.delay * tick < o.settings.refreshInterval.nanos := o.patient
  have hdue : o.moment n * tick < o.due := by
    unfold due
    omega
  exact Nat.lt_of_mul_lt_mul_right (hdue.trans_le (le_tickOf o.due).1)

/-! ## The failures -/

theorem length_errors : o.errors.length = o.failures := by
  simp [errors, failures, beforeJoin, Nat.add_assoc]

theorem error_list {n : Nat} (h : n < o.faults.list) :
    o.errors[n]? = some (.metadata "injected metadata failure") := by
  unfold errors
  rw [List.getElem?_append_left (by simpa using h), List.getElem?_replicate_of_lt h]

theorem error_connect {n : Nat} (hl : o.faults.list ≤ n) (h : n < o.beforeJoin) :
    o.errors[n]? = some (.connection "injected connection failure") := by
  unfold beforeJoin at h
  unfold errors
  rw [List.getElem?_append_right (by simpa using hl), List.length_replicate,
    List.getElem?_append_left (by rw [List.length_replicate]; omega),
    List.getElem?_replicate_of_lt (by omega)]

theorem error_consume {n : Nat} (hj : o.beforeJoin ≤ n) (h : n < o.failures) :
    o.errors[n]? = some (.consume "injected consume failure") := by
  unfold failures at h
  unfold beforeJoin at h hj
  unfold errors
  rw [List.getElem?_append_right (by rw [List.length_replicate]; omega), List.length_replicate,
    List.getElem?_append_right (by rw [List.length_replicate]; omega), List.length_replicate,
    List.getElem?_replicate_of_lt (by omega)]

variable (o)

/-- The books after `n` failures, each counted and shown. -/
def books (n : Nat) : Books :=
  (o.errors.take n).foldl (fun b e => (b.count .consumeError).report e) Books.empty

/-- What is left of the failures after `m` of them. -/
def left (m : Nat) : Faults :=
  ⟨o.faults.list - m, o.faults.connect - (m - o.faults.list), o.faults.consume - (m - o.beforeJoin),
    o.faults.claim⟩

variable {o}

theorem books_succ {n : Nat} {e : RelayError} (h : o.errors[n]? = some e) :
    o.books (n + 1) = ((o.books n).count .consumeError).report e := by
  unfold books
  rw [List.take_add_one, h, List.foldl_append]
  rfl

/-- After `n` failures as many have been counted and shown, and no session. -/
theorem books_told {n : Nat} (h : n ≤ o.failures) : (o.books n).metrics.consumeErrors = n ∧
    (o.books n).sink.errors.items = (o.errors.take n).map RelayError.report ∧
    (o.books n).metrics.sessions = 0 := by
  induction n with
  | zero => exact ⟨rfl, rfl, rfl⟩
  | succ n ih =>
    obtain ⟨hc, hs, hz⟩ := ih (by omega)
    have hlt : n < o.errors.length := by rw [length_errors]; omega
    have he : o.errors[n]? = some o.errors[n] := List.getElem?_eq_getElem hlt
    rw [books_succ he]
    refine ⟨congrArg (· + 1) hc, ?_, hz⟩
    rw [List.take_add_one, he, List.map_append, ← hs]
    rfl

/-! ## The broker -/

variable (o)

/-- The broker after `m` of the failures, before the first group or with it. -/
structure Broke (m : Nat) (joined : Bool) (b : Broker) : Prop where
  catalog : b.catalog = o.catalog
  faults : b.faults = o.left m
  groups : ∃ stream, b.groups = if joined then [⟨false, stream, []⟩] else []
  connects : b.calls.groupConnects = joined.toNat
  closes : b.calls.groupCloses = 0
  consumes : b.calls.consumes = m - o.beforeJoin

variable {o} {m n : Nat} {joined : Bool} {b : Broker}

/-- The failures of lists come first, -/
theorem left_list (h : n < o.faults.list) :
    o.left (n + 1) = { o.left n with list := (o.left n).list - 1 } := by
  simp only [left, beforeJoin, Faults.mk.injEq, and_true]
  omega

/-- and when they are used up a list uses up no more of them. -/
theorem left_listed (h : o.faults.list ≤ n) :
    o.left n = { o.left n with list := (o.left n).list - 1 } := by
  simp only [left, Faults.mk.injEq, and_true]
  omega

/-- Then come those of connections, -/
theorem left_connect (hl : o.faults.list ≤ n) (h : n < o.beforeJoin) :
    o.left (n + 1) = { o.left n with connect := (o.left n).connect - 1 } := by
  unfold beforeJoin at h
  simp only [left, beforeJoin, Faults.mk.injEq, and_true]
  omega

/-- and last those of calls. -/
theorem left_consume (h : o.beforeJoin ≤ n) :
    o.left (n + 1) = { o.left n with consume := (o.left n).consume - 1 } := by
  unfold beforeJoin at h
  simp only [left, beforeJoin, Faults.mk.injEq, and_true]
  omega

/-- A look at the topics. -/
theorem Broke.select (h : o.Broke n joined b) (p : Pattern)
    (hm : o.left m = { o.left n with list := (o.left n).list - 1 })
    (hj : m - o.beforeJoin = n - o.beforeJoin) : o.Broke m joined (b.select p).2 := by
  obtain ⟨hgroups, hcatalog, hcalls, -⟩ := Broker.select_same b p
  refine ⟨hcatalog.trans h.catalog, ?_, ?_, ?_, ?_, ?_⟩
  · rw [Broker.faults_select, h.faults, hm]
  · rw [hgroups]
    exact h.groups
  · rw [hcalls]
    exact h.connects
  · rw [hcalls]
    exact h.closes
  · rw [hcalls, hj]
    exact h.consumes

/-- A list fails while such failures are left. -/
theorem Broke.list_fails (h : o.Broke n joined b) (hn : n < o.faults.list) (p : Pattern) :
    (b.select p).1 = .error (.metadata "injected metadata failure") ∧
      o.Broke (n + 1) joined (b.select p).2 := by
  refine ⟨?_, h.select p (left_list hn) ?_⟩
  · rw [Broker.select_eq, if_pos]
    rw [h.faults]
    exact Nat.sub_pos_of_lt hn
  · unfold beforeJoin
    omega

/-- After them the topics are listed. -/
theorem Broke.listed (h : o.Broke n joined b) (hn : o.faults.list ≤ n) :
    (b.select o.settings.pattern).1 = .ok o.topics ∧
      o.Broke n joined (b.select o.settings.pattern).2 := by
  refine ⟨?_, h.select _ (left_listed hn) rfl⟩
  rw [Broker.select_eq, if_neg]
  · unfold Broker.topics topics
    rw [h.catalog]
  · rw [h.faults]
    exact Nat.not_lt.mpr (Nat.sub_eq_zero_of_le hn).le

/-- A connection fails while such failures are left. -/
theorem Broke.join_fails (h : o.Broke n false b) (hl : o.faults.list ≤ n) (hn : n < o.beforeJoin) :
    ∃ c, b.join = (.error (.connection "injected connection failure"), c) ∧
      o.Broke (n + 1) false c := by
  have hc : b.faults.connect > 0 := by
    unfold beforeJoin at hn
    rw [h.faults]
    simp only [left]
    omega
  refine ⟨_, if_pos hc, h.catalog, ?_, h.groups, h.connects, h.closes, ?_⟩
  · rw [h.faults, left_connect hl hn]
  · have := h.consumes
    show b.calls.consumes = _
    omega

/-- After them the first group is joined. -/
theorem Broke.joins (h : o.Broke n false b) (hn : n = o.beforeJoin) :
    ∃ c, b.join = (.ok 0, c) ∧ o.Broke n true c := by
  have hc : ¬ b.faults.connect > 0 := by
    unfold beforeJoin at hn
    rw [h.faults]
    simp only [left]
    omega
  obtain ⟨stream, hgroups⟩ := h.groups
  have hnone : b.groups = [] := hgroups
  have hfirst : (Except.ok b.groups.length : Except RelayError Nat) = .ok 0 := by
    rw [hnone]
    rfl
  refine ⟨_, (if_neg hc).trans (Prod.ext hfirst rfl), h.catalog, h.faults, ⟨.kept, ?_⟩, ?_, h.closes,
    h.consumes⟩
  · show b.groups ++ [Group.fresh] = _
    rw [hnone]
    rfl
  · have := h.connects
    show b.calls.groupConnects + 1 = 1
    rw [this]
    rfl

/-- A call fails while such failures are left. -/
theorem Broke.consume_fails (h : o.Broke n true b) (hj : o.beforeJoin ≤ n) (hn : n < o.failures) :
    b.beginConsume.1 = false ∧ o.Broke (n + 1) true b.beginConsume.2 := by
  have hc : b.faults.consume > 0 := by
    unfold failures at hn
    rw [h.faults]
    simp only [left]
    omega
  have hb : b.beginConsume = (false, _) := if_pos hc
  rw [hb]
  refine ⟨rfl, h.catalog, ?_, h.groups, h.connects, h.closes, ?_⟩
  · show { b.faults with consume := b.faults.consume - 1 } = _
    rw [h.faults, left_consume hj]
  · have := h.consumes
    show b.calls.consumes + 1 = _
    omega

/-- After them a call may go on. -/
theorem Broke.consumes_on (h : o.Broke n true b) (hn : n = o.failures) :
    b.beginConsume = (true, { b with calls := { b.calls with consumes := o.faults.consume + 1 } }) := by
  have hc : ¬ b.faults.consume > 0 := by
    unfold failures at hn
    rw [h.faults]
    simp only [left]
    omega
  have hcount : b.calls.consumes = o.faults.consume := by
    rw [h.consumes, hn, failures, Nat.add_sub_cancel_left]
  rw [← hcount]
  exact if_neg hc

/-- Taking the stream of the first group's errors changes nothing else. -/
theorem Broke.takeStream (h : o.Broke n true b) : o.Broke n true (b.takeStream 0).2 := by
  obtain ⟨stream, hgroups⟩ := h.groups
  unfold Broker.takeStream
  split
  · refine { h with groups := ⟨.taken, ?_⟩ }
    show b.groups.modify 0 _ = _
    rw [hgroups]
    rfl
  · exact h

/-! ## What happens on time -/

variable (o)

/-- No group has been joined in `w`, and it is not too late. -/
structure Unjoined (w : Relay) : Prop where
  group : w.supervisor.map Supervisor.group = some none
  generation : w.supervisor.map Supervisor.generation = some 0
  connects : w.broker.calls.groupConnects = 0
  early : w.now ≤ o.moment o.beforeJoin

/-- No session has been set up in `w`. So far `n` failures have been counted and shown, each at its
moment. -/
structure OnTime (n : Nat) (w : Relay) : Prop where
  few : n ≤ o.failures
  counted : w.books.metrics.consumeErrors = n
  shown : w.books.sink.errors.items = (o.errors.take n).map RelayError.report
  sessions : w.books.metrics.sessions = 0
  unserved : ∀ h ∈ w.sessions, h.session.stage = .idle
  early : w.now ≤ o.moment n
  late : o.moment n ≤ w.now + o.delay

/-- The step from `w` to `v` joins the first group. -/
structure Joins (w v : Relay) : Prop where
  step : w.step .loop = some v
  /-- There was no group before, -/
  before : w.supervisor.map Supervisor.group = some none ∧ w.broker.calls.groupConnects = 0
  /-- and this is the first. -/
  after : v.supervisor.map Supervisor.group = some (some 0) ∧
    v.supervisor.map Supervisor.generation = some 1 ∧
    v.broker.calls.groupConnects = 1 ∧ v.broker.calls.groupCloses = 0
  moment : v.now = o.moment o.beforeJoin

/-- The step from `w` to `v` sets the first session up. -/
structure SetsUp (w v : Relay) : Prop where
  step : w.step .loop = some v
  /-- No session was set up before, -/
  before : w.books.metrics.sessions = 0 ∧ ∀ h ∈ w.sessions, h.session.stage = .idle
  /-- and this is the first. -/
  after : v.books.metrics.sessions = 1 ∧ ∃ h ∈ v.sessions, h.session.stage = .active
  moment : v.now = o.moment o.failures
  counted : v.books.metrics.consumeErrors = o.failures
  shown : v.books.sink.errors.items = o.errors.map RelayError.report
  generation : v.supervisor.map Supervisor.generation = some 1
  connects : v.broker.calls.groupConnects = 1
  closes : v.broker.calls.groupCloses = 0
  consumes : v.broker.calls.consumes = o.faults.consume + 1

end Outage
end Sluice
