import Sluice.Output.Service
import Sluice.Proofs.Output.Journal
import Sluice.Proofs.Queue
/-!
# Every group gets one result

Groups are submitted while the sink is held, and the task takes its turns in between, in any order. A
run carries the groups that were submitted. What has come of them so far is told by `Served`: which
groups have gone to the output, that they have their results in order, and that no number is lost.

* `Move`: what a turn of the task does.
* `Served.event`, `Served.move`: one step keeps the accounts; `Run.served`: so does a run.
* `Moves.bounded`, `goes_on`: once the sink was dropped there is an end, and the task gets there.
* `Run.verdicts`: by then every group has one result, which the calls to the device tell.
* `serve_moves`: to serve all that waits, as one step, is a run of the task.
-/
namespace Sluice

namespace Service

/-- The groups that go to the output: those with records, by their numbers. -/
def numbered (rss : List (List Record)) : List Batch :=
  (rss.zipIdx 1).filterMap fun e => if e.1 = [] then none else some ⟨e.2, e.1⟩

theorem numbered_append (rss : List (List Record)) (rs : List Record) :
    numbered (rss ++ [rs]) = numbered rss ++ if rs = [] then [] else [⟨rss.length + 1, rs⟩] := by
  rw [numbered, List.zipIdx_append, List.filterMap_append]
  refine congrArg (numbered rss ++ ·) ?_
  by_cases h : rs = []
  · simp [h]
  · simp [h, Nat.add_comm]

theorem id_le_of_mem_numbered {rss : List (List Record)} {b : Batch} (h : b ∈ numbered rss) :
    b.id ≤ rss.length := by
  obtain ⟨⟨rs, i⟩, mem, eq⟩ := List.mem_filterMap.mp h
  have bound := List.snd_lt_add_of_mem_zipIdx mem
  split at eq
  · cases eq
  · cases eq
    dsimp only at bound ⊢
    omega

variable {σ : Type} {d : Device σ} {s : σ} {x y z : Service σ} {rss : List (List Record)} {n : Nat}

/-- Those of the results that are for the groups `bs`. -/
def answers (bs : List Batch) (rs : List Delivery) : List Delivery :=
  rs.filter fun r => decide (r.id ∈ bs.map Batch.id)

/-- The results of the groups that went to the output, in the order in which they were sent. -/
def results (x : Service σ) : List Delivery := answers x.sink.batches.items x.sink.deliveries.items

/-- The records of a group that an event submits. -/
def Event.submitted : Event → List (List Record)
  | .submit rs => [rs]
  | _ => []

/-- A run, with the groups that have been submitted. -/
inductive Run (d : Device σ) (s : σ) : List (List Record) → Service σ → Prop
  | fresh : Run d s [] (fresh s)
  | event {rss : List (List Record)} {x : Service σ} (e : Event) : Run d s rss x → x.held = true →
    Run d s (rss ++ e.submitted) (x.apply e)
  | turn {rss : List (List Record)} {x y : Service σ} {t : Turn} : Run d s rss x →
    x.step d t = some y → Run d s rss y

/-! ## One step -/

/-- What a turn of the task does. -/
inductive Move (d : Device σ) (x : Service σ) : Service σ → Prop
  /-- It writes the group at hand and sends its result. -/
  | written {b : Batch} (hand : x.current = some b) : Move d x { x with
      sink := x.sink.confirm (x.output.take d b).1, output := (x.output.take d b).2, current := none }
  /-- It takes the next group in hand. -/
  | taken {b : Batch} {q : Queue Batch} (on : x.ended = false) (free : x.current = none)
    (next : x.sink.batches.pop? = some (b, q)) :
    Move d x { x with sink := { x.sink with batches := q }, current := some b }
  /-- It ends behind the last group. -/
  | finished (on : x.ended = false) (free : x.current = none) (last : x.sink.batches.waiting = [])
    (dropped : x.held = false) : Move d x { x with ended := true }
  | heard {e : Report} {q : Queue Report} (hearing : x.hearing = true)
    (next : x.sink.errors.pop? = some (e, q)) :
    Move d x { x with sink := { x.sink with errors := q } }
  /-- It hears no more behind the last error. -/
  | silent (hearing : x.hearing = true) (last : x.sink.errors.waiting = [])
    (dropped : x.held = false) : Move d x { x with hearing := false }

theorem idle_iff : x.idle = true ↔ x.ended = false ∧ x.current = none := by
  simp [idle]

theorem move_of_step {t : Turn} (h : x.step d t = some y) : Move d x y := by
  cases t with
  | write =>
    obtain ⟨b, hand, rfl⟩ := Option.map_eq_some_iff.mp h
    exact .written hand
  | groups =>
    rw [step] at h
    split at h
    · cases h
    next ready =>
    obtain ⟨on, free⟩ := idle_iff.mp (by simpa using ready)
    unfold Sink.receive at h
    cases hq : x.sink.batches.pop? with
    | some e =>
      rw [hq] at h
      cases h
      exact .taken on free hq
    | none =>
      rw [hq] at h
      dsimp only [Option.map_none] at h
      split at h
      · cases h
      · next dropped =>
        cases h
        exact .finished on free ((Queue.pop?_eq_none_iff _).mp hq) (by simpa using dropped)
  | errors =>
    rw [step] at h
    split at h
    · cases h
    next ready =>
    have hearing : x.hearing = true := by
      rw [Bool.or_eq_true, not_or] at ready
      simpa using ready.2
    cases hq : x.sink.errors.pop? with
    | some e =>
      rw [hq] at h
      cases h
      exact .heard hearing hq
    | none =>
      rw [hq] at h
      dsimp only at h
      split at h
      · cases h
      · next dropped =>
        cases h
        exact .silent hearing ((Queue.pop?_eq_none_iff _).mp hq) (by simpa using dropped)

/-! ## The accounts -/

/-- What has come of the groups `rss` so far. -/
structure Served (d : Device σ) (s : σ) (rss : List (List Record)) (x : Service σ) : Prop where
  groups : x.sink.batches.items = numbered rss
  number : x.sink.nextId = rss.length + 1
  /-- The task has never refused a group. -/
  accepting : x.sink.outputOpen = true
  /-- Every number has a result, or its group is at hand, or it waits. -/
  accounts : (x.sink.deliveries.items.map Delivery.id ++
    (x.current.toList ++ x.sink.batches.waiting).map Batch.id).Perm (List.range' 1 rss.length)
  /-- The groups before the one at hand have their results, and these only. -/
  done : ∃ bs, x.sink.batches.past = bs ++ x.current.toList ∧
    (Output.fresh s).takeAll d bs = (x.results, x.output)
  /-- The end comes when nobody can submit a group, and none is left. -/
  ended : x.ended = true → x.held = false ∧ x.current = none ∧ x.sink.batches.waiting = []

theorem served_fresh : Served d s [] (fresh s) where
  groups := rfl
  number := rfl
  accepting := rfl
  accounts := .refl _
  done := ⟨[], rfl, rfl⟩
  ended := nofun

/-- No result has the number of a group to come. -/
theorem Served.id_le (h : Served d s rss x) {r : Delivery} (mem : r ∈ x.sink.deliveries.items) :
    r.id ≤ rss.length := by
  have here : r.id ∈ List.range' 1 rss.length :=
    h.accounts.mem_iff.mp (List.mem_append_left _ (List.mem_map_of_mem mem))
  have := (List.mem_range'_1.mp here).2
  omega

theorem answers_known {bs : List Batch} {r : Delivery} (known : r.id ∈ bs.map Batch.id)
    (rs : List Delivery) : answers bs (rs ++ [r]) = answers bs rs ++ [r] := by
  simp only [answers, List.filter_append, List.filter_cons, known, decide_true, if_true, List.filter_nil]

theorem answers_unknown {bs : List Batch} {r : Delivery} (unknown : r.id ∉ bs.map Batch.id)
    (rs : List Delivery) : answers bs (rs ++ [r]) = answers bs rs := by
  simp only [answers, List.filter_append, List.filter_cons, unknown, decide_false, Bool.false_eq_true,
    if_false, List.filter_nil, List.append_nil]

theorem answers_unanswered {b : Batch} {rs : List Delivery} (new : ∀ r ∈ rs, r.id ≠ b.id)
    (bs : List Batch) : answers (bs ++ [b]) rs = answers bs rs := by
  refine List.filter_congr fun r mem => decide_eq_decide.mpr ?_
  rw [List.map_append, List.mem_append, List.map_singleton, List.mem_singleton]
  exact or_iff_left (new r mem)

theorem range'_snoc (n : Nat) : List.range' 1 (n + 1) = List.range' 1 n ++ [n + 1] := by
  rw [List.range'_concat, Nat.one_mul, Nat.add_comm 1]

/-- A group without records has its result at once. -/
theorem Served.submit_empty (h : Served d s rss x) (held : x.held = true) :
    Served d s (rss ++ [[]]) (x.apply (.submit [])) := by
  obtain ⟨bs, past, results⟩ := h.done
  have submitted : x.apply (.submit []) = { x with sink :=
      { x.sink with
        nextId := rss.length + 2
        deliveries := x.sink.deliveries.push ⟨rss.length + 1, true⟩ } } := by
    rw [← h.number, apply, Sink.submit, h.number]
    rfl
  have groups : x.sink.batches.items = numbered (rss ++ [[]]) := by
    rw [numbered_append, if_pos rfl, List.append_nil, h.groups]
  have unknown : rss.length + 1 ∉ x.sink.batches.items.map Batch.id := fun mem => by
    obtain ⟨b, mem, same⟩ := List.mem_map.mp mem
    have := id_le_of_mem_numbered (h.groups ▸ mem)
    omega
  rw [submitted]
  refine ⟨groups, by rw [List.length_append]; rfl, h.accepting, ?_, ⟨bs, past, ?_⟩, fun late => ?_⟩
  · rw [List.length_append, List.length_singleton, range'_snoc]
    refine List.Perm.trans ?_ (h.accounts.append_right _)
    show ((x.sink.deliveries.items ++ [_]).map Delivery.id ++ _).Perm _
    rw [List.map_append, List.append_assoc, List.append_assoc]
    exact List.perm_append_comm.append_left _
  · rw [results, Service.results, Service.results]
    exact congrArg (·, x.output) (answers_unknown unknown _).symm
  · cases held.symm.trans (h.ended late).1

/-- A group with records goes to the output. -/
theorem Served.submit_records (h : Served d s rss x) (held : x.held = true) {rs : List Record}
    (ne : rs ≠ []) : Served d s (rss ++ [rs]) (x.apply (.submit rs)) := by
  obtain ⟨bs, past, results⟩ := h.done
  have submitted : x.apply (.submit rs) = { x with sink :=
      { x.sink with
        nextId := rss.length + 2
        batches := x.sink.batches.push ⟨rss.length + 1, rs⟩ } } := by
    rw [← h.number, apply, Sink.submit, h.number]
    simp [ne, h.accepting]
  have groups : x.sink.batches.items ++ [⟨rss.length + 1, rs⟩] = numbered (rss ++ [rs]) := by
    rw [numbered_append, if_neg ne, h.groups]
  have new : ∀ r ∈ x.sink.deliveries.items, r.id ≠ rss.length + 1 := fun r mem same => by
    have := h.id_le mem
    omega
  rw [submitted]
  refine ⟨groups, by rw [List.length_append]; rfl, h.accepting, ?_, ⟨bs, ?_, ?_⟩, fun late => ?_⟩
  · rw [List.length_append, List.length_singleton, range'_snoc]
    refine List.Perm.trans ?_ (h.accounts.append_right _)
    rw [Queue.waiting_push]
    simp
  · rw [Queue.past_push, past]
  · rw [results, Service.results, Service.results]
    exact congrArg (·, x.output) (answers_unanswered new _).symm
  · cases held.symm.trans (h.ended late).1

theorem Served.event (h : Served d s rss x) (held : x.held = true) (e : Event) :
    Served d s (rss ++ e.submitted) (x.apply e) := by
  have same : rss ++ [] = rss := List.append_nil rss
  cases e with
  | submit rs =>
    by_cases empty : rs = []
    · subst empty
      exact h.submit_empty held
    · exact h.submit_records held empty
  | report e => exact same.symm ▸ { h with }
  | drop => exact same.symm ▸ { h with ended := fun late => ⟨rfl, (h.ended late).2⟩ }
  | read =>
    show Served d s (rss ++ []) _
    rw [same, apply, Sink.nextDelivery]
    cases hq : x.sink.deliveries.pop? with
    | none => exact h
    | some e =>
      obtain ⟨items, -⟩ := Queue.items_of_pop? hq
      refine { h with accounts := ?_, done := ?_ }
      · have accounts := h.accounts
        rwa [← items] at accounts
      · have done := h.done
        rwa [Service.results, ← items] at done

theorem Served.move (h : Served d s rss x) (hm : Move d x y) : Served d s rss y := by
  obtain ⟨bs, past, results⟩ := h.done
  cases hm with
  | @written b hand =>
    obtain ⟨delivered, part, result, -⟩ := Output.take_cases (d := d) x.output b
    have known : (x.output.take d b).1.id ∈ x.sink.batches.items.map Batch.id := by
      rw [result]
      refine List.mem_map_of_mem (List.mem_of_mem_take (i := x.sink.batches.taken) ?_)
      show b ∈ x.sink.batches.past
      rw [past, hand]
      exact List.mem_append_right _ List.mem_cons_self
    refine ⟨h.groups, h.number, h.accepting, ?_, ⟨bs ++ [b], ?_, ?_⟩, fun late => ?_⟩
    · have accounts := h.accounts
      rw [hand] at accounts
      simpa [Sink.confirm, Queue.push, result] using accounts
    · show x.sink.batches.past = _
      rw [past, hand, List.append_assoc]
      rfl
    · rw [Output.takeAll_append, results]
      exact congrArg (·, (x.output.take d b).2) (answers_known known _).symm
    · cases hand.symm.trans (h.ended late).2.1
  | taken on free next =>
    obtain ⟨items, -⟩ := Queue.items_of_pop? next
    refine ⟨items.trans h.groups, h.number, h.accepting, ?_, ⟨bs, ?_, ?_⟩, fun late => ?_⟩
    · have accounts := h.accounts
      rw [free, Queue.waiting_of_pop? next] at accounts
      exact accounts
    · rw [Queue.past_of_pop? next, past, free, List.append_assoc]
      rfl
    · rw [results, Service.results, Service.results, items]
    · cases on.symm.trans late
  | finished on free last dropped => exact { h with ended := fun _ => ⟨dropped, free, last⟩ }
  | heard hearing next => exact { h with }
  | silent hearing last dropped => exact { h with }

theorem Run.served (h : Run d s rss x) : Served d s rss x := by
  induction h with
  | fresh => exact served_fresh
  | event e _ held ih => exact ih.event held e
  | turn _ hs ih => exact ih.move (move_of_step hs)

/-! ## The end -/

/-- Turns of the task, one after the other. -/
inductive Moves (d : Device σ) : Nat → Service σ → Service σ → Prop
  | none (x : Service σ) : Moves d 0 x x
  | move {n : Nat} {x y z : Service σ} {t : Turn} : x.step d t = some y → Moves d n y z →
    Moves d (n + 1) x z

theorem Run.moves (h : Run d s rss x) (hm : Moves d n x y) : Run d s rss y := by
  induction hm with
  | none => exact h
  | move hs _ ih => exact ih (h.turn hs)

/-- How many moves are left to the task: two for a group, one for an error, and one for the end of each
queue. -/
def work (x : Service σ) : Nat :=
  2 * x.sink.batches.backlog + x.current.toList.length + x.sink.errors.backlog +
    (if x.hearing then 1 else 0) + (if x.ended then 0 else 1)

theorem backlog_of_pop? {α : Type} {q r : Queue α} {a : α} (h : q.pop? = some (a, r)) :
    q.backlog = r.backlog + 1 := by
  rw [← Queue.length_waiting, ← Queue.length_waiting, Queue.waiting_of_pop? h, List.length_cons]

theorem work_of_move (h : Move d x y) : x.work = y.work + 1 := by
  cases h with
  | written hand => simp [work, hand, Sink.confirm]; omega
  | taken on free next =>
    have := backlog_of_pop? next
    simp [work, free]
    omega
  | finished on free last dropped => simp [work, on]
  | heard hearing next =>
    have := backlog_of_pop? next
    simp [work]
    omega
  | silent hearing last dropped => simp [work, hearing]; omega

theorem Moves.bounded (h : Moves d n x y) : x.work = y.work + n := by
  induction h with
  | none => rfl
  | move hs _ ih =>
    have := work_of_move (move_of_step hs)
    omega

/-- A task that nobody gives groups goes on until it has ended, whatever comes of the errors. -/
theorem goes_on (d : Device σ) (dropped : x.held = false) (on : x.ended = false) :
    ∃ t y, t ≠ .errors ∧ x.step d t = some y := by
  cases hand : x.current with
  | some b => exact ⟨.write, _, nofun, by rw [step, hand]; rfl⟩
  | none =>
    have ready : x.idle = true := idle_iff.mpr ⟨on, hand⟩
    refine ⟨.groups, ?_⟩
    rw [step, ready]
    cases x.sink.receive with
    | some e => exact ⟨_, nofun, rfl⟩
    | none => exact ⟨_, nofun, by rw [dropped]; rfl⟩

theorem held_of_move (h : Move d x y) : y.held = x.held := by
  cases h <;> rfl

theorem Moves.held (h : Moves d n x y) : y.held = x.held := by
  induction h with
  | none => rfl
  | move hs _ ih => exact ih.trans (held_of_move (move_of_step hs))

theorem ends (d : Device σ) (dropped : x.held = false) : ∃ n y, Moves d n x y ∧ y.ended = true := by
  induction hn : x.work using Nat.strongRecOn generalizing x with
  | _ n ih =>
    cases on : x.ended with
    | true => exact ⟨0, x, .none x, on⟩
    | false =>
      obtain ⟨t, y, -, hs⟩ := goes_on d dropped on
      have move := move_of_step hs
      have less := work_of_move move
      obtain ⟨m, z, moves, ended⟩ := ih y.work (by omega) ((held_of_move move).trans dropped) rfl
      exact ⟨m + 1, z, .move hs moves, ended⟩

/-- What every group has got when the task has ended. -/
structure Settled (d : Device σ) (s : σ) (rss : List (List Record)) (y : Service σ) : Prop where
  /-- The groups that went to the output have one result each, in their order. -/
  order : y.results.map Delivery.id = (numbered rss).map Batch.id
  /-- The calls for a group tell its result. -/
  verdict : ∀ before b after, numbered rss = before ++ b :: after → ∃ delivered,
    y.results[before.length]? = some ⟨b.id, delivered⟩ ∧
      Output.Judged d ((Output.fresh s).takeAll d before).2 (Output.journal d (.fresh s) before) b delivered
  /-- Every group has one result, also one without records. -/
  all : (y.sink.deliveries.items.map Delivery.id).Perm (List.range' 1 rss.length)
  /-- The output is what these groups leave, one after the other. -/
  output : (Output.fresh s).takeAll d (numbered rss) = (y.results, y.output)

theorem ids_takeAll (d : Device σ) (o : Output σ) (bs : List Batch) :
    (o.takeAll d bs).1.map Delivery.id = bs.map Batch.id := by
  induction bs generalizing o with
  | nil => rfl
  | cons b bs ih =>
    obtain ⟨delivered, part, result, -⟩ := Output.take_cases (d := d) o b
    simp [Output.takeAll, ih, result]

theorem Served.settled (h : Served d s rss y) (late : y.ended = true) : Settled d s rss y := by
  obtain ⟨-, free, last⟩ := h.ended late
  obtain ⟨bs, past, results⟩ := h.done
  have all : bs = numbered rss := by
    rw [← h.groups, ← Queue.past_append_waiting, past, free, last]
    simp
  subst all
  have answers : y.results = ((Output.fresh s).takeAll d (numbered rss)).1 := by rw [results]
  have accounts := h.accounts
  rw [free, last, Option.toList_none, List.append_nil, List.map_nil, List.append_nil] at accounts
  refine ⟨by rw [answers, ids_takeAll], fun before b after split => ?_, accounts, results⟩
  rw [answers, split]
  exact Output.judged d s before b after

/-- **Every group gets one result.** However the task took its turns while groups were submitted, and
whatever the device does: once the sink was dropped the task makes only so many moves and goes on
until it has ended, and then every group has one result, in order, which the calls for it tell. -/
theorem Run.verdicts (run : Run d s rss x) (dropped : x.held = false) :
    (∃ n y, Moves d n x y ∧ y.ended = true) ∧
    ∀ n y, Moves d n x y → n ≤ x.work ∧ (y.ended = false → ∃ t z, t ≠ .errors ∧ y.step d t = some z) ∧
      (y.ended = true → Settled d s rss y) :=
  ⟨ends d dropped, fun _ _ moves => ⟨by have := moves.bounded; omega,
    goes_on d (moves.held.trans dropped), (run.moves moves).served.settled⟩⟩

end Service

/-- A device that fails at first, then takes two writes, and is lost by the next one. -/
def Device.doomed : Device Nat where
  write n bytes := (if n = 0 then .failed else if n < 3 then .taken bytes.length else .crashed, n + 1)
  flush n := (.done, n)

namespace Service

/-- A failure, a success, a loss, and a group that is not tried; in between a group without records, and
an error. -/
theorem verdicts_doomed :
    let rss := [[.named "a"], [], [.named "b"], [.named "c"], [.named "d"]]
    ∃ x, Run .doomed 0 rss x ∧ x.held = false ∧ ∃ n y, Moves .doomed n x y ∧ y.ended = true ∧
      y.results = [⟨1, false⟩, ⟨3, true⟩, ⟨4, false⟩, ⟨5, false⟩] ∧
      (y.sink.deliveries.items.map Delivery.id).Perm [1, 2, 3, 4, 5] := by
  intro rss
  obtain ⟨x, run, dropped⟩ : ∃ x, Run .doomed 0 rss x ∧ x.held = false := by
    have first := (Run.fresh (d := .doomed) (s := 0)).event (.submit [.named "a"]) rfl
    have hand := first.turn (t := .groups) rfl
    have second := (hand.event (.submit []) rfl).event (.report (.parse "bad")) rfl
    have third := (second.event (.submit [.named "b"]) rfl).event (.submit [.named "c"]) rfl
    exact ⟨_, (third.event (.submit [.named "d"]) rfl).event .drop rfl, rfl⟩
  obtain ⟨⟨n, y, moves, ended⟩, ahead⟩ := run.verdicts dropped
  have settled := (ahead n y moves).2.2 ended
  have results : ((Output.fresh 0).takeAll .doomed (numbered rss)).1 =
      [⟨1, false⟩, ⟨3, true⟩, ⟨4, false⟩, ⟨5, false⟩] := by decide +kernel
  rw [settled.output] at results
  exact ⟨x, run, dropped, n, y, moves, ended, results, settled.all⟩

/-! ## All at once -/

theorem drain_eq {α : Type} (q : Queue α) :
    q.drain = (q.waiting, ⟨q.items, q.items.length, Nat.le_refl _⟩) := rfl

/-- To serve all groups is to serve the first of them, and then all others. -/
theorem serve_receive {sk sk' : Sink} {b : Batch} (h : sk.receive = some (b, sk')) (o : Output σ) :
    o.serve d sk = (o.take d b).2.serve d (sk'.confirm (o.take d b).1) := by
  obtain ⟨⟨b', q⟩, hq, eq⟩ := Option.map_eq_some_iff.mp h
  cases eq
  obtain ⟨items, -⟩ := Queue.items_of_pop? hq
  have waiting := Queue.waiting_of_pop? hq
  simp only [Output.serve, Sink.receiveAll, Sink.confirm, drain_eq, waiting, Output.takeAll, items,
    List.foldl_cons]

theorem serve_nothing {sk : Sink} (last : sk.batches.waiting = []) (o : Output σ) :
    o.serve d sk = (sk, o) := by
  have whole : sk.batches.items.length = sk.batches.taken := by
    have := sk.batches.taken_le
    have := List.drop_eq_nil_iff.mp last
    omega
  simp only [Output.serve, Sink.receiveAll, drain_eq, last, Output.takeAll, List.foldl_nil, whole]

/-- To serve all groups that wait, as one step, is a run of the task. -/
theorem serve_moves (on : x.ended = false) (free : x.current = none) : ∃ n, Moves d n x
    { x with sink := (x.output.serve d x.sink).1, output := (x.output.serve d x.sink).2 } := by
  induction hw : x.sink.batches.waiting generalizing x with
  | nil =>
    rw [serve_nothing hw]
    exact ⟨0, .none x⟩
  | cons b rest ih =>
    cases hr : x.sink.receive with
    | none =>
      rw [Sink.receive, Option.map_eq_none_iff, Queue.pop?_eq_none_iff, hw] at hr
      cases hr
    | some e =>
      obtain ⟨b', sk⟩ := e
      obtain ⟨⟨b'', q⟩, hq, eq⟩ := Option.map_eq_some_iff.mp hr
      cases eq
      have left : q.waiting = rest := by
        have := (Queue.waiting_of_pop? hq).symm.trans hw
        exact (List.cons.inj this).2
      have taken : x.step d .groups =
          some { x with sink := { x.sink with batches := q }, current := some b' } := by
        rw [step, idle_iff.mpr ⟨on, free⟩, hr]
        rfl
      obtain ⟨n, rest⟩ := ih (x := { x with
        sink := Sink.confirm { x.sink with batches := q } (x.output.take d b').1
        output := (x.output.take d b').2, current := none }) on rfl left
      rw [serve_receive hr]
      refine ⟨n + 1 + 1, .move taken (.move (t := .write) rfl ?_)⟩
      rw [free]
      exact rest

end Service
end Sluice
