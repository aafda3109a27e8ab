import Sluice.Proofs.Queue
import Sluice.Proofs.Session.Runs
/-!
# What a session submits is what its claims read

A claim reads the items of its queue from the first on and stops behind a failure of the broker. Each
message that it reads is routed one way, which the rules alone decide, and the groups that are
submitted reach the output in the order of their numbers. What other claims, results and the end of
the session do meanwhile changes nothing of it.

* `Rules.route`: which way a message goes.
* `Faithful`: what a claim has read and what came of it, and what the output has got.
* `Run.reachable_of_agree`: the payload of a message that is too long is never looked at.
* `Run.groups_faithful`: all of it, in every run.
-/
namespace Sluice

/-- Which way a message goes. -/
inductive Route where
  | oversize
  | unparsed
  /-- Its records are submitted. -/
  | group (records : List Record)

/-- Which way the rules send a message. -/
def Rules.route (r : Rules) (m : Message) : Route :=
  if r.tooLong m then .oversize
  else
    match r.parse m.payload with
    | .error _ => .unparsed
    | .ok records => .group (r.tagged m records)

/-- The records that are submitted. -/
def Route.group? : Route → Option (List Record)
  | .group records => some records
  | _ => none

/-- The message that claim `i` has read, and which way it went. -/
def Fate.routed (i : Nat) : Fate → Option (Message × Route)
  | .oversize _ j m => if j = i then some (m, .oversize) else none
  | .unparsed _ j m => if j = i then some (m, .unparsed) else none
  | .submitted _ j m _ records => if j = i then some (m, .group records) else none
  | _ => none

/-- The group that was submitted. -/
def Fate.batch? : Fate → Option Batch
  | .submitted _ _ _ id records => some ⟨id, records⟩
  | _ => none

/-- The messages that a claim has read, with nothing between them and nothing behind a failure. -/
def Claim.HasRead (c : Claim) (ms : List Message) : Prop :=
  c.queue.past = ms.map .message ∨
    ∃ e, c.queue.past = ms.map .message ++ [.failure e] ∧ c.phase = .ended (some e)

theorem Claim.HasRead.not_ended {c : Claim} {ms : List Message} (h : c.HasRead ms)
    (hp : c.hasEnded = false) : c.queue.past = ms.map .message := by
  rcases h with h | ⟨e, -, he⟩
  · exact h
  · simp [hasEnded, he] at hp

namespace Books

/-- The messages that claim `i` has read, each with the way it went. -/
def routes (b : Books) (i : Nat) : List (Message × Route) := b.history.filterMap (Fate.routed i)

/-- The groups that were submitted. -/
def groups (b : Books) : List Batch := b.history.filterMap Fate.batch?

/-- Whether the output gets a group. -/
def hasRecords (g : Batch) : Bool := !g.records.isEmpty

end Books

namespace Rules

/-- A tag is set to the topic in every record, in place of one of that name, and nothing else is
changed. -/
theorem tagged_some {r : Rules} {tag : String} (h : r.topicTag = some tag) (m : Message)
    (records : List Record) : ∃ f : Record → Record, r.tagged m records = records.map f ∧
      ∀ x, (f x).name = x.name ∧ (f x).fields = x.fields ∧ (f x).timestamp = x.timestamp ∧
        ∀ key, (f x).tags.get? key = if key = tag then some m.topic else x.tags.get? key := by
  refine ⟨fun x => x.addTag tag m.topic, by unfold tagged; rw [h],
    fun x => ⟨rfl, rfl, rfl, fun key => ?_⟩⟩
  exact Keyed.get?_insert tag key m.topic x.tags

theorem tagged_none {r : Rules} (h : r.topicTag = none) (m : Message) (records : List Record) :
    r.tagged m records = records := by
  unfold tagged
  rw [h]

end Rules

namespace Session

variable {n k i : Nat} {rules : Rules} {s s' : Session} {b b' : Books} {c : Claim} {m : Message}
  {ms : List Message}

/-! ## What the output gets -/

/-- The groups submitted have ascending numbers, and those with records reach the output in that
order, as long as it is open. -/
structure Shipped (b : Books) : Prop where
  ascending : (b.groups.map Batch.id).Pairwise (· < ·)
  old : ∀ g ∈ b.groups, g.id < b.sink.nextId
  shipped : b.sink.batches.items <+: b.groups.filter Books.hasRecords
  complete : b.sink.outputOpen = true →
    b.sink.batches.items = b.groups.filter Books.hasRecords

theorem shipped_empty : Shipped .empty :=
  ⟨List.Pairwise.nil, nofun, List.prefix_rfl, fun _ => rfl⟩

theorem Shipped.of_same (h : Shipped b) (hg : b'.groups = b.groups)
    (hn : b'.sink.nextId = b.sink.nextId) (hi : b'.sink.batches.items = b.sink.batches.items)
    (ho : b'.sink.outputOpen = true → b.sink.outputOpen = true) : Shipped b' :=
  ⟨by rw [hg]; exact h.ascending, by rw [hg, hn]; exact h.old, by rw [hi, hg]; exact h.shipped,
    fun hopen => by rw [hi, hg]; exact h.complete (ho hopen)⟩

theorem submit_batches (sink : Sink) (records : List Record) :
    (sink.submit records).2.2.outputOpen = sink.outputOpen ∧
      (sink.submit records).2.2.batches.items =
        if Books.hasRecords ⟨sink.nextId, records⟩ && sink.outputOpen then
          sink.batches.items ++ [⟨sink.nextId, records⟩] else sink.batches.items := by
  unfold Sink.submit Books.hasRecords
  by_cases hr : records.isEmpty = true
  · simp [hr, Sink.confirm]
  · by_cases ho : sink.outputOpen = true
    · simp [hr, ho, Queue.push]
    · simp [hr, ho, Sink.confirm]

theorem Shipped.submit (h : Shipped b) (k i : Nat) (m : Message) (records : List Record) :
    Shipped (bookSubmitted k i m records b) := by
  have hgroups : (bookSubmitted k i m records b).groups = b.groups ++ [⟨b.sink.nextId, records⟩] := by
    unfold Books.groups bookSubmitted Books.note Books.count
    rw [List.filterMap_append]
    rfl
  have hnext : (bookSubmitted k i m records b).sink.nextId = b.sink.nextId + 1 :=
    submit_nextId b.sink records
  obtain ⟨hopen, hitems⟩ := submit_batches b.sink records
  have hopen' : (bookSubmitted k i m records b).sink.outputOpen = b.sink.outputOpen := hopen
  have hitems' : (bookSubmitted k i m records b).sink.batches.items =
    if Books.hasRecords ⟨b.sink.nextId, records⟩ && b.sink.outputOpen then
      b.sink.batches.items ++ [⟨b.sink.nextId, records⟩] else b.sink.batches.items := hitems
  constructor
  · rw [hgroups, List.map_append]
    refine List.pairwise_append.mpr ⟨h.ascending, List.pairwise_singleton _ _, fun x hx y hy => ?_⟩
    obtain ⟨g, hg, rfl⟩ := List.mem_map.mp hx
    cases List.mem_singleton.mp hy
    exact h.old g hg
  · rw [hgroups, hnext]
    intro g hg
    rcases List.mem_append.mp hg with hg | hg
    · exact Nat.lt_succ_of_lt (h.old g hg)
    · cases List.mem_singleton.mp hg
      exact Nat.lt_succ_self _
  · rw [hgroups, hitems', List.filter_append]
    split
    · next ht =>
      rw [Bool.and_eq_true] at ht
      rw [h.complete ht.2]
      simp [ht.1]
    · exact h.shipped.trans (List.prefix_append _ _)
  · intro ho
    rw [hopen'] at ho
    rw [hgroups, hitems', List.filter_append, ho, Bool.and_true, h.complete ho]
    split
    · next ht => simp [ht]
    · next ht => simp [ht]

/-! ## What a claim has read -/

/-- What the claims have read, and what the books tell of it. -/
structure Faithful (rules : Rules) (s : Session) (b : Books) : Prop where
  read : ∀ {i} {c : Claim}, s.claims[i]? = some c →
    ∃ ms, c.HasRead ms ∧ b.routes i = ms.map fun m => (m, rules.route m)
  /-- A claim that has not been started has read nothing. -/
  future : ∀ {i}, s.claims.length ≤ i → b.routes i = []
  shipped : Shipped b

theorem faithful_ofCapacity (rules : Rules) (n : Nat) : Faithful rules (ofCapacity n) .empty :=
  ⟨nofun, fun _ => rfl, shipped_empty⟩

/-- What claims do besides reading changes nothing of it. -/
theorem Faithful.quiet (h : Faithful rules s b) (hlen : s'.claims.length = s.claims.length)
    (hcl : ∀ {j : Nat} {c' : Claim}, s'.claims[j]? = some c' → ∃ c, s.claims[j]? = some c ∧
      c'.queue.past = c.queue.past ∧ (c'.phase = c.phase ∨ c.hasEnded = false))
    (hr : ∀ i, b'.routes i = b.routes i) (hs : Shipped b') : Faithful rules s' b' := by
  refine ⟨fun {j c'} hj => ?_, fun {j} hj => ?_, hs⟩
  · obtain ⟨c, hc, hq, hp⟩ := hcl hj
    obtain ⟨ms, hm, hroutes⟩ := h.read hc
    refine ⟨ms, ?_, (hr j).trans hroutes⟩
    rcases hp with hp | hp
    · unfold Claim.HasRead at *
      rwa [hq, hp]
    · exact .inl (hq.trans (hm.not_ended hp))
  · rw [hr j]
    exact h.future (hlen ▸ hj)

theorem Faithful.of_same (h : Faithful rules s b) (hc : s'.claims = s.claims)
    (hr : ∀ i, b'.routes i = b.routes i) (hs : Shipped b') : Faithful rules s' b' :=
  h.quiet (by rw [hc]) (fun hj => ⟨_, hc ▸ hj, rfl, .inl rfl⟩) hr hs

/-- A claim that has not ended goes over to another phase. -/
theorem Faithful.modify (h : Faithful rules s b) (hc : s.claims[i]? = some c)
    (hp : c.hasEnded = false) {f : Claim → Claim} (hf : (f c).queue.past = c.queue.past)
    (hcl : s'.claims = s.claims.modify i f) : Faithful rules s' b := by
  refine h.quiet (by rw [hcl, List.length_modify]) (fun hj => ?_) (fun _ => rfl) h.shipped
  rw [hcl] at hj
  rcases modify_cases hj with hj | ⟨rfl, a, ha, rfl⟩
  · exact ⟨_, hj, rfl, .inl rfl⟩
  · cases hc.symm.trans ha
    exact ⟨_, hc, hf, .inr hp⟩

/-- A claim reads a message, and what became of it is written down. -/
theorem Faithful.message (h : Faithful rules s b) (hc : s.claims[i]? = some c)
    (hp : c.hasEnded = false) {q : Queue Item} (hq : c.queue.pop? = some (.message m, q))
    (hcl : s'.claims = s.claims.modify i fun c => { c with queue := q, phase := .admitting })
    {f : Fate} (hh : b'.history = b.history ++ [f])
    (hf : ∀ j, f.routed j = if i = j then some (m, rules.route m) else none) (hs : Shipped b') :
    Faithful rules s' b' := by
  have hroutes : ∀ j, b'.routes j =
      b.routes j ++ if i = j then [(m, rules.route m)] else [] := by
    intro j
    unfold Books.routes
    rw [hh, List.filterMap_append, List.filterMap_cons, hf j]
    by_cases hj : i = j <;> simp [hj]
  refine ⟨fun {j c'} hj => ?_, fun {j} hj => ?_, hs⟩
  · rw [hroutes j]
    by_cases hij : i = j
    · subst hij
      rw [hcl, List.getElem?_modify, hc] at hj
      simp only [if_true, Option.map_eq_map, Option.map_some] at hj
      cases hj
      obtain ⟨ms, hm, hr⟩ := h.read hc
      refine ⟨ms ++ [m], .inl ?_, by simp [hr]⟩
      rw [Queue.past_of_pop? hq, hm.not_ended hp]
      simp
    · rw [hcl, List.getElem?_modify] at hj
      simp only [hij, if_false, Option.map_eq_map, Option.map_id_fun', id_eq] at hj
      simpa [hij] using h.read hj
  · have hlt : i < s.claims.length := (List.getElem?_eq_some_iff.mp hc).1
    rw [hcl, List.length_modify] at hj
    rw [hroutes j, if_neg (by omega), List.append_nil]
    exact h.future hj

/-- A claim reads a failure of the broker, and ends. -/
theorem Faithful.failure (h : Faithful rules s b) (hc : s.claims[i]? = some c)
    (hp : c.hasEnded = false) {q : Queue Item} {e : RelayError}
    (hq : c.queue.pop? = some (.failure e, q)) {f : Claim → Claim}
    (hf : (f c).queue = q ∧ (f c).phase = .ended (some e))
    (hcl : s'.claims = s.claims.modify i f) : Faithful rules s' b := by
  refine ⟨fun {j c'} hj => ?_, fun {j} hj => ?_, h.shipped⟩
  · rw [hcl] at hj
    rcases modify_cases hj with hj | ⟨rfl, a, ha, rfl⟩
    · exact h.read hj
    · cases hc.symm.trans ha
      obtain ⟨ms, hm, hr⟩ := h.read hc
      refine ⟨ms, .inr ⟨e, ?_, hf.2⟩, hr⟩
      rw [hf.1, Queue.past_of_pop? hq, hm.not_ended hp]
  · rw [hcl, List.length_modify] at hj
    exact h.future hj

/-! ## What every run keeps -/

/-- Results are written down beside it. -/
theorem Faithful.apply (h : Faithful rules s b) (k : Nat) (d : Delivery) :
    Faithful rules (s.apply k d b).1 (s.apply k d b).2.1 := by
  have hnote : ∀ {f : Fate} {b' : Books}, b'.history = b.history ++ [f] →
      (∀ i, f.routed i = none) → f.batch? = none → b'.sink = b.sink →
      (∀ i, b'.routes i = b.routes i) ∧ Shipped b' := by
    intro f b' hh hr hg hs
    refine ⟨fun i => ?_, h.shipped.of_same ?_ (by rw [hs]) (by rw [hs]) (by rw [hs]; exact id)⟩
    · simp [Books.routes, hh, hr i]
    · simp [Books.groups, hh, hg]
  rcases apply_cases k d s b with ⟨-, hs, hb⟩ | ⟨m, -, hs, hb⟩ <;> rw [hs, hb]
  · have hbook : (∀ i, (bookUnknown k d b).routes i = b.routes i) ∧ Shipped (bookUnknown k d b) :=
      hnote rfl (fun _ => rfl) rfl rfl
    exact h.of_same rfl hbook.1 hbook.2
  · have hbook : (∀ i, (bookResult k d m b).routes i = b.routes i) ∧
        Shipped (bookResult k d m b) := by
      unfold bookResult
      split
      · exact hnote rfl (fun _ => rfl) rfl rfl
      · exact hnote rfl (fun _ => rfl) rfl rfl
    exact h.of_same rfl hbook.1 hbook.2

theorem claims_hold (s : Session) (id : Nat) (m : Message) : (s.hold id m).claims = s.claims := by
  unfold hold
  dsimp only
  split <;> rfl

theorem Rules.route_oversize (h : rules.tooLong m = true) : rules.route m = .oversize := by
  unfold Rules.route
  rw [if_pos h]

theorem Rules.route_unparsed {e : RelayError} (h : rules.tooLong m = false)
    (he : rules.parse m.payload = .error e) : rules.route m = .unparsed := by
  unfold Rules.route
  rw [h, he]
  rfl

theorem Rules.route_group {records : List Record} (h : rules.tooLong m = false)
    (hr : rules.parse m.payload = .ok records) :
    rules.route m = .group (rules.tagged m records) := by
  unfold Rules.route
  rw [h, hr]
  rfl

theorem faithful_move {t : Task} (h : Faithful rules s b) (hm : Move rules k s b t s' b') :
    Faithful rules s' b' := by
  cases hm with
  | turnBack hc hp | enter hc hp | join hc hp | leave hc hp | take hc hp | stop hc hp =>
    exact h.modify hc (by simp [Claim.hasEnded, hp]) (by rfl) rfl
  | @fail i c e q hc hp _ hq =>
    have hcl := congrArg Session.claims (modify_modify s i (fun c => { c with queue := q })
      fun c => { c with phase := .ended (some e) })
    exact h.failure hc (by simp [Claim.hasEnded, hp]) hq ⟨rfl, rfl⟩ hcl
  | oversize hc hp _ hq hl =>
    refine h.message hc (by simp [Claim.hasEnded, hp]) hq rfl rfl (fun j => ?_)
      (h.shipped.of_same ?_ rfl rfl id)
    · rw [Rules.route_oversize hl]
      rfl
    · simp [Books.groups, bookOversize, Books.note, Books.count, Books.mark, Books.report,
        Fate.batch?]
  | unparsed hc hp _ hq hl he =>
    refine h.message hc (by simp [Claim.hasEnded, hp]) hq rfl rfl (fun j => ?_)
      (h.shipped.of_same ?_ rfl rfl id)
    · rw [Rules.route_unparsed hl he]
      rfl
    · simp [Books.groups, bookUnparsed, Books.note, Books.count, Books.report, Fate.batch?]
  | submit hc hp _ hq hl hr =>
    refine h.message hc (by simp [Claim.hasEnded, hp]) hq (claims_hold _ _ _) rfl (fun j => ?_)
      (h.shipped.submit _ _ _ _)
    rw [Rules.route_group hl hr]
    rfl
  | dismissed | tune | attend | forgo | receive | letGo | drained | close =>
    exact h.of_same rfl (fun _ => rfl) (h.shipped.of_same rfl rfl rfl id)
  | @result _ sink _ _ hd =>
    obtain ⟨q, -, rfl⟩ := nextDelivery_same hd
    have hb : Faithful rules { s with confirmer := .asking }
        (taken b { b.sink with deliveries := q }) :=
      h.of_same rfl (fun _ => rfl) (h.shipped.of_same rfl rfl rfl id)
    exact hb.apply _ _
  | leftover _ hd =>
    obtain ⟨q, -, rfl⟩ := nextDelivery_same (nextDelivery_of_tryNext hd)
    have hb : Faithful rules s { b with sink := { b.sink with deliveries := q } } :=
      h.of_same rfl (fun _ => rfl) (h.shipped.of_same rfl rfl rfl id)
    exact hb.apply _ _

theorem faithful_outside (h : Faithful rules s b) (ho : Outside s b s' b') :
    Faithful rules s' b' := by
  cases ho with
  | nothing | setup | drain | cancel | confirm =>
    exact h.of_same rfl (fun _ => rfl) (h.shipped.of_same rfl rfl rfl id)
  | closeOutput => exact h.of_same rfl (fun _ => rfl) (h.shipped.of_same rfl rfl rfl nofun)
  | receive hr =>
    obtain ⟨⟨x, q⟩, hq, he⟩ := Option.map_eq_some_iff.mp hr
    cases he
    have hitems := (Queue.items_of_pop? hq).1
    exact h.of_same rfl (fun _ => rfl) (h.shipped.of_same rfl rfl hitems id)
  | start topic partition =>
    refine ⟨fun {j c'} hj => ?_, fun {j} hj => ?_, h.shipped⟩
    · rcases concat_cases hj with hj | ⟨rfl, rfl⟩
      · exact h.read hj
      · exact ⟨[], .inl rfl, h.future (Nat.le_refl _)⟩
    · refine h.future (Nat.le_trans (Nat.le_succ _) ?_)
      simpa [Session.start] using hj
  | push item hc ha =>
    have hp := (Bool.and_eq_true_iff.mp ha).2
    exact h.modify hc (by simpa using hp) (Queue.past_push _ _) rfl
  | shut hc ha =>
    have hp := (Bool.and_eq_true_iff.mp ha).2
    exact h.modify hc (by simpa using hp) (by rfl) rfl

namespace Run

theorem Reachable.faithful {r : Run} (h : r.Reachable rules n) :
    Faithful rules r.session r.books :=
  h.holds (faithful_ofCapacity rules n) faithful_move faithful_outside

/-! ## Payloads that are never looked at -/

theorem handle_of_agree {rules' : Rules} (hl : rules'.maxLen = rules.maxLen)
    (ht : rules'.topicTag = rules.topicTag)
    (hp : ∀ m, rules.tooLong m = false → rules'.parse m.payload = rules.parse m.payload)
    (k i : Nat) (m : Message) (s : Session) (b : Books) :
    s.handle rules' k i m b = s.handle rules k i m b := by
  have hlong : rules'.tooLong m = rules.tooLong m := by
    unfold Rules.tooLong
    rw [hl]
  have htag : rules'.tagged m = rules.tagged m := by
    funext records
    unfold Rules.tagged
    rw [ht]
  unfold handle
  rw [hlong, htag, hl]
  split
  · rfl
  · next h => rw [hp m (by simpa using h)]

/-- Rules with the same limit and tag that read alike the payloads within the limit allow the same
runs: nothing depends on what the payload of a message that is too long would be read as. -/
theorem reachable_of_agree {r : Run} (h : r.Reachable rules n) {rules' : Rules}
    (hl : rules'.maxLen = rules.maxLen) (ht : rules'.topicTag = rules.topicTag)
    (hp : ∀ m, rules.tooLong m = false → rules'.parse m.payload = rules.parse m.payload) :
    r.Reachable rules' n := by
  have hstep : ∀ (t : Task) (q : Run), q.step rules' t = q.step rules t := by
    intro t q
    unfold step Session.step stepClaim
    simp only [handle_of_agree hl ht hp]
  induction h with
  | start => exact .start
  | event e _ ih => exact ih.event e
  | move t _ hs ih => exact ih.move t ((hstep t _).trans hs)

/-- The groups of one claim are groups of the session, in the same order. -/
theorem routes_sublist (b : Books) (i : Nat) :
    ((b.routes i).filterMap fun x => x.2.group?).Sublist (b.groups.map Batch.records) := by
  unfold Books.routes Books.groups
  rw [List.filterMap_filterMap, List.map_filterMap]
  induction b.history with
  | nil => exact .slnil
  | cons f fs ih =>
    cases f with
    | submitted k j m id records =>
      by_cases hj : j = i
      · simpa [Fate.routed, Fate.batch?, Route.group?, hj] using ih
      · simpa [Fate.routed, Fate.batch?, Route.group?, hj] using ih.cons _
    | oversize k j m | unparsed k j m =>
      by_cases hj : j = i <;> simpa [Fate.routed, Fate.batch?, Route.group?, hj] using ih
    | delivered | undelivered | unknown =>
      simpa [Fate.routed, Fate.batch?, Route.group?] using ih

/-- **A session submits what its claims read.** In every run, whatever other claims, results and the
end of the session do meanwhile:

* a claim has read the first items of its queue, messages and behind them at most one failure of the
  broker, with which it has ended;
* each message that it has read went the way that the rules send it, in order, so the groups that it
  has submitted are those that the rules make of them, and they come in this order among all groups;
* the records of a group are the parser's, in which the tag, if one is wanted, is the topic and
  nothing else is changed;
* the numbers of the groups ascend, and those with records reach the output in this order, all of
  them as long as it is open;
* what the parser makes of payloads over the limit does not matter. -/
theorem groups_faithful {r : Run} (h : r.Reachable rules n) {i : Nat} {c : Claim}
    (hc : r.session.claims[i]? = some c) :
    (∃ ms : List Message,
      (c.queue.items = ms.map .message ++ c.queue.waiting ∨
        ∃ e, c.queue.items = ms.map .message ++ .failure e :: c.queue.waiting ∧
          c.phase = .ended (some e)) ∧
      r.books.routes i = (ms.map fun m => (m, rules.route m)) ∧
      (r.books.routes i).filterMap (fun x => x.2.group?) =
        ms.filterMap fun m => (rules.route m).group?) ∧
    ((r.books.routes i).filterMap fun x => x.2.group?).Sublist (r.books.groups.map Batch.records) ∧
    (∀ m records, match rules.topicTag with
      | none => rules.tagged m records = records
      | some tag => ∃ f : Record → Record, rules.tagged m records = records.map f ∧
          ∀ x, (f x).name = x.name ∧ (f x).fields = x.fields ∧ (f x).timestamp = x.timestamp ∧
            ∀ key, (f x).tags.get? key = if key = tag then some m.topic else x.tags.get? key) ∧
    (r.books.groups.map Batch.id).Pairwise (· < ·) ∧
    r.books.sink.batches.items <+: r.books.groups.filter Books.hasRecords ∧
    (r.books.sink.outputOpen = true →
      r.books.sink.batches.items = r.books.groups.filter Books.hasRecords) ∧
    ∀ rules' : Rules, rules'.maxLen = rules.maxLen → rules'.topicTag = rules.topicTag →
      (∀ m, rules.tooLong m = false → rules'.parse m.payload = rules.parse m.payload) →
      r.Reachable rules' n := by
  have hf := h.faithful
  obtain ⟨ms, hread, hroutes⟩ := hf.read hc
  refine ⟨⟨ms, ?_, hroutes, ?_⟩, routes_sublist _ _, fun m records => ?_, hf.shipped.ascending,
    hf.shipped.shipped, hf.shipped.complete, fun _ hl ht hp => reachable_of_agree h hl ht hp⟩
  · rw [← c.queue.past_append_waiting]
    rcases hread with hp | ⟨e, hp, he⟩
    · exact .inl (by rw [hp])
    · exact .inr ⟨e, by rw [hp]; simp, he⟩
  · rw [hroutes, List.filterMap_map]
    rfl
  · cases ht : rules.topicTag with
    | none => exact Rules.tagged_none ht m records
    | some tag => exact Rules.tagged_some ht m records

/-- Of five items a claim has read a message that is too long, one without records, one that was
submitted and a failure; the last message is never read. Another claim has submitted a group
before. -/
theorem groups_faithful_failed : ∃ (r : Run) (c : Claim), r.Reachable plainRules 4 ∧
    r.session.claims[0]? = some c ∧ c.queue.items.length = 5 ∧ c.queue.waiting.length = 1 ∧
    r.books.groups.map Batch.id = [1, 2] ∧ r.books.sink.batches.items.map Batch.id = [1, 2] ∧
    ∃ ms : List Message,
      (c.queue.items = ms.map .message ++ c.queue.waiting ∨
        ∃ e, c.queue.items = ms.map .message ++ .failure e :: c.queue.waiting ∧
          c.phase = .ended (some e)) ∧
      r.books.routes 0 = (ms.map fun m => (m, plainRules.route m)) ∧
      (r.books.routes 0).filterMap (fun x => x.2.group?) =
        ms.filterMap fun m => (plainRules.route m).group? := by
  obtain ⟨r, c, hr, hc, hi, hw, hg, hb⟩ : ∃ (r : Run) (c : Claim),
      (ofCapacity 4).replay plainRules
        [.inl (.start "t" 0), .inl (.start "t" 1), .inr (.claim 0), .inr (.claim 1),
          .inl (.push 0 (.message (.plain "t" 0 0 [1, 2, 3, 4]))),
          .inl (.push 0 (.message (.plain "t" 0 1 []))),
          .inl (.push 0 (.message (.plain "t" 0 2 [1, 2, 3]))),
          .inl (.push 0 (.failure .groupClosed)),
          .inl (.push 0 (.message (.plain "t" 0 3 [1]))),
          .inl (.push 1 (.message (.plain "t" 1 0 [1]))),
          .inr (.claim 1), .inr (.claim 0), .inr (.claim 0), .inr (.claim 0), .inr (.claim 0),
          .inr (.claim 0), .inr (.claim 0), .inr (.claim 0)] = some r ∧
      r.session.claims[0]? = some c ∧ c.queue.items.length = 5 ∧ c.queue.waiting.length = 1 ∧
      r.books.groups.map Batch.id = [1, 2] ∧ r.books.sink.batches.items.map Batch.id = [1, 2] :=
    ⟨_, _, rfl, rfl, rfl, rfl, rfl, rfl⟩
  have h := Reachable.start.replay hr
  exact ⟨r, c, h, hc, hi, hw, hg, hb, (groups_faithful h hc).1⟩

end Run
end Session
end Sluice
