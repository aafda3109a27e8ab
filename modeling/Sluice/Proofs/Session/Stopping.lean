import Sluice.Proofs.Queue
import Sluice.Proofs.Schedule
import Sluice.Proofs.Session.Cleanup
import Sluice.Proofs.Session.Starvation
/-!
# Stopping a session

Once a session has been told to end there is one move left to each of its claims: to end, without a
failure. A free slot, a slot that was granted, a queued message and a queued failure all come second to
that. The slot goes back, and the confirmer goes on applying results, so that soon the slots in use are
those of the messages that still wait.

* `quit_of_claim`, `step_of_cancelled`: the move of a claim that has not ended.
* `Ceased`: what is kept, whatever happens to the session.
* `remaining_of_move`: with every move the session comes nearer to rest.
* `InTurn.awake`: no claim that has yet to end sleeps.
* `Onward.stopped`: what has come of a session that was told to end.
-/
namespace Sluice

/-- What may become of a claim once its session has been told to end: it reads nothing, and ends
without a failure if it had not ended. -/
structure Claim.Quits (c d : Claim) : Prop where
  source : d.source = c.source
  past : d.queue.past = c.queue.past
  phase : d.phase = c.phase ∨ c.hasEnded = false ∧ d.phase = .ended none

theorem Claim.Quits.refl (c : Claim) : c.Quits c := ⟨rfl, rfl, .inl rfl⟩

theorem Claim.Quits.trans {c d e : Claim} (h : c.Quits d) (h' : d.Quits e) : c.Quits e := by
  refine ⟨h'.source.trans h.source, h'.past.trans h.past, ?_⟩
  rcases h.phase, h'.phase with ⟨hd | ⟨hc, hd⟩, he | ⟨hn, he⟩⟩
  · exact .inl (he.trans hd)
  · refine .inr ⟨?_, he⟩
    unfold hasEnded at hn ⊢
    rwa [← hd]
  · exact .inr ⟨hc, he.trans hd⟩
  · exact .inr ⟨hc, he⟩

/-- No message was read in between: none was counted, nothing has come of one, and all that was
written down is what became of results. -/
structure Books.Unfed (b b' : Books) : Prop where
  received : b'.metrics.received = b.metrics.received
  oversize : b'.metrics.oversize = b.metrics.oversize
  parseFailures : b'.metrics.parseFailures = b.metrics.parseFailures
  submitted : b'.metrics.submitted = b.metrics.submitted
  batches : b'.sink.batches.items = b.sink.batches.items
  errors : b'.sink.errors.items = b.sink.errors.items
  history : ∃ later, b'.history = b.history ++ later ∧ b'.store = b.store.after later ∧
    ∀ f ∈ later, f.result? ≠ none

theorem Books.Unfed.refl (b : Books) : b.Unfed b :=
  ⟨rfl, rfl, rfl, rfl, rfl, rfl, [], (List.append_nil _).symm, rfl, nofun⟩

theorem Books.Unfed.trans {b c d : Books} (h : b.Unfed c) (h' : c.Unfed d) : b.Unfed d := by
  obtain ⟨fs, hfs, hs, hf⟩ := h.history
  obtain ⟨gs, hgs, hs', hg⟩ := h'.history
  refine ⟨h'.received.trans h.received, h'.oversize.trans h.oversize,
    h'.parseFailures.trans h.parseFailures, h'.submitted.trans h.submitted,
    h'.batches.trans h.batches, h'.errors.trans h.errors, fs ++ gs, ?_, ?_, fun f hm => ?_⟩
  · rw [hgs, hfs, List.append_assoc]
  · rw [hs', hs, OffsetStore.after_append]
  · exact (List.mem_append.mp hm).elim (hf f) (hg f)

namespace Session

variable {n k i : Nat} {rules : Rules} {s s' : Session} {b b' c : Books} {a d : Claim}

/-! ## The last move of a claim -/

/-- A claim of a session that has been told to end does nothing but end. -/
theorem quit_of_claim (hc : s.cancelled = true) (hm : Move rules k s b (.claim i) s' b') :
    ∃ c, s.claims[i]? = some c ∧ c.hasEnded = false ∧ b' = b ∧ s'.confirmer = s.confirmer ∧
      s'.pending = s.pending ∧
      s'.claims = s.claims.modify i fun c => { c with phase := .ended none } := by
  cases hm with
  | @turnBack i c hi hp | @leave i c hi hp | @stop i c hi hp =>
    exact ⟨c, hi, by simp [Claim.hasEnded, hp], rfl, rfl, rfl, rfl⟩
  | enter _ _ hn | join _ _ hn | take _ _ hn | fail _ _ hn | oversize _ _ hn | unparsed _ _ hn
  | submit _ _ hn =>
    rw [hc] at hn
    cases hn

/-- One claim fewer runs. -/
theorem running_of_quit {cs : List Claim} (hi : cs[i]? = some a) (he : a.hasEnded = false) :
    (cs.modify i fun c => { c with phase := .ended none }).countP (fun c => !c.hasEnded) + 1 =
      cs.countP fun c => !c.hasEnded := by
  have hcount := countP_modify (fun c => !c.hasEnded) (fun c => { c with phase := .ended none }) cs hi
  have hend : ({ a with phase := .ended none } : Claim).hasEnded = true := rfl
  simp only [he, hend, Bool.not_false, if_true, Bool.not_true, Bool.false_eq_true, if_false] at hcount
  omega

/-- It waits for nobody. -/
theorem step_of_cancelled (rules : Rules) (k : Nat) (b : Books) (hc : s.cancelled = true)
    (hi : s.claims[i]? = some a) (he : a.hasEnded = false) : s.stepClaim rules k i b ≠ none := by
  unfold stepClaim
  simp only [hi, hc, if_true]
  cases hp : a.phase with
  | admitting | queued | reading => exact nofun
  | ended e => simp [Claim.hasEnded, hp] at he

theorem quits_of_step (hc : s.cancelled = true) (hi : s.claims[i]? = some a)
    (he : a.hasEnded = false) (k : Nat) (b : Books) :
    ∃ s' signals, s.stepClaim rules k i b = some (s', b, signals) ∧ s'.pending = s.pending ∧
      s'.claims = s.claims.modify i fun c => { c with phase := .ended none } := by
  obtain ⟨⟨s', b', signals⟩, hs⟩ :=
    Option.ne_none_iff_exists'.mp (step_of_cancelled rules k b hc hi he)
  obtain ⟨-, -, -, rfl, -, hp, hcl⟩ := quit_of_claim hc (move_of_stepClaim hs)
  exact ⟨s', signals, hs, hp, hcl⟩

/-- Nobody but whoever is outside tells a session to end. -/
theorem cancelled_of_move {t : Task} (hm : Move rules k s b t s' b') :
    s'.cancelled = s.cancelled := by
  cases hm with
  | submit =>
    unfold hold
    dsimp only
    split <;> rfl
  | @result d sink => exact (apply_same k d { s with confirmer := .asking } (taken b sink)).2.1
  | @leftover d sink => exact (apply_same k d s { b with sink := sink }).2.1
  | _ => rfl

/-! ## What the confirmer still writes down -/

theorem unfed_of_noted {f? : Option Fate} (hn : Noted f? s b s' b')
    (hf : ∀ f, f? = some f → f.result? ≠ none)
    (hm : b'.metrics.received = b.metrics.received ∧ b'.metrics.oversize = b.metrics.oversize ∧
      b'.metrics.parseFailures = b.metrics.parseFailures ∧
      b'.metrics.submitted = b.metrics.submitted)
    (hb : b'.sink.batches.items = b.sink.batches.items)
    (he : b'.sink.errors.items = b.sink.errors.items) : b.Unfed b' := by
  obtain ⟨h1, h2, h3, h4⟩ := hm
  refine ⟨h1, h2, h3, h4, hb, he, f?.toList, hn.history, ?_, fun f hf' => hf f (by simpa using hf')⟩
  rw [hn.store]
  cases f? with
  | none => rfl
  | some f => cases hk : f.marked <;> simp [OffsetStore.after, hk]

theorem unfed_metrics_apply (k : Nat) (d : Delivery) (s : Session) (b : Books) :
    (s.apply k d b).2.1.metrics.received = b.metrics.received ∧
      (s.apply k d b).2.1.metrics.oversize = b.metrics.oversize ∧
      (s.apply k d b).2.1.metrics.parseFailures = b.metrics.parseFailures ∧
      (s.apply k d b).2.1.metrics.submitted = b.metrics.submitted := by
  rcases apply_cases k d s b with ⟨-, -, hb⟩ | ⟨m, -, -, hb⟩ <;> rw [hb]
  · exact ⟨rfl, rfl, rfl, rfl⟩
  · unfold bookResult
    split <;> exact ⟨rfl, rfl, rfl, rfl⟩

/-- A confirmer reads no messages. -/
theorem unfed_of_confirmer (hm : Move rules k s b .confirmer s' b') : b.Unfed b' := by
  obtain ⟨f?, hn, -⟩ := noted_of_move hm
  have hf : ∀ f, f? = some f → f.result? ≠ none := by
    rintro f rfl
    have hh := hn.history
    obtain ⟨-, -, -, ⟨h, -⟩ | ⟨d, -, -, -, h, -⟩⟩ := reads_of_confirmer hm
    · rw [h] at hh
      simp at hh
    · rw [h, List.append_cancel_left_eq, Option.toList_some, List.singleton_inj] at hh
      rw [← hh, result?_fate]
      exact nofun
  cases hm with
  | dismissed | tune | attend | forgo | receive | letGo | drained =>
    exact unfed_of_noted hn hf ⟨rfl, rfl, rfl, rfl⟩ rfl rfl
  | @result d sink _ _ hd =>
    obtain ⟨q, -, rfl⟩ := nextDelivery_same hd
    have hs := (apply_same k d { s with confirmer := .asking }
      (taken b { b.sink with deliveries := q })).2.2.2.2.2
    exact unfed_of_noted hn hf (unfed_metrics_apply k d _ _) (by rw [hs]; rfl) (by rw [hs]; rfl)
  | @leftover d sink _ hd =>
    obtain ⟨q, -, rfl⟩ := nextDelivery_same (nextDelivery_of_tryNext hd)
    have hs := (apply_same k d s { b with sink := { b.sink with deliveries := q } }).2.2.2.2.2
    exact unfed_of_noted hn hf (unfed_metrics_apply k d _ _) (by rw [hs]) (by rw [hs])

theorem unfed_of_outside (ho : Outside s b s' b') : b.Unfed b' := by
  have hn := noted_of_outside ho
  cases ho with
  | receive hr =>
    obtain ⟨⟨x, q⟩, hq, he⟩ := Option.map_eq_some_iff.mp hr
    cases he
    exact unfed_of_noted hn nofun ⟨rfl, rfl, rfl, rfl⟩ (Queue.items_of_pop? hq).1 rfl
  | _ => exact unfed_of_noted hn nofun ⟨rfl, rfl, rfl, rfl⟩ rfl rfl

/-! ## What is kept -/

/-- What has become of a session with claims `cs` and books `c` since it was told to end. -/
structure Ceased (cs : List Claim) (c : Books) (s : Session) (b : Books) : Prop where
  cancelled : s.cancelled = true
  unfed : c.Unfed b
  claims : ∀ {i : Nat} {a : Claim}, cs[i]? = some a → ∃ d, s.claims[i]? = some d ∧ a.Quits d
  /-- A claim that was started since then reads nothing at all. -/
  newcomers : ∀ {i : Nat} {d : Claim}, cs[i]? = none → s.claims[i]? = some d →
    d.queue.past = [] ∧ (d.phase = .admitting ∨ d.phase = .ended none)

variable {cs : List Claim}

theorem ceased_refl (hc : s.cancelled = true) : Ceased s.claims b s b :=
  ⟨hc, .refl b, fun {_ a} h => ⟨a, h, .refl a⟩, fun h h' => by rw [h] at h'; cases h'⟩

/-- Nothing has happened to the claims. -/
theorem Ceased.of_same (h : Ceased cs c s b) (hx : s'.cancelled = true) (hc : s'.claims = s.claims)
    (hb : b.Unfed b') : Ceased cs c s' b' := by
  refine ⟨hx, h.unfed.trans hb, ?_, ?_⟩ <;> rw [hc]
  · exact h.claims
  · exact h.newcomers

/-- One claim has gone on. -/
theorem Ceased.modify {f : Claim → Claim} (h : Ceased cs c s b) (hx : s'.cancelled = true)
    (hb : b.Unfed b') (hi : s.claims[i]? = some a) (hc : s'.claims = s.claims.modify i f)
    (hq : a.Quits (f a)) : Ceased cs c s' b' := by
  refine ⟨hx, h.unfed.trans hb, fun {j e} hj => ?_, fun {j e} hj he => ?_⟩
  · obtain ⟨d, hd, hed⟩ := h.claims hj
    rw [hc, List.getElem?_modify, hd]
    by_cases e : i = j
    · subst e
      cases Option.some.inj (hi.symm.trans hd)
      exact ⟨f a, by simp, hed.trans hq⟩
    · exact ⟨d, by simp [e], hed⟩
  · rw [hc] at he
    rcases modify_cases he with he | ⟨rfl, g, hg, rfl⟩
    · exact h.newcomers hj he
    · cases Option.some.inj (hi.symm.trans hg)
      obtain ⟨hp, hph⟩ := h.newcomers hj hi
      refine ⟨hq.past.trans hp, ?_⟩
      rcases hq.phase with hf | ⟨-, hf⟩ <;> rw [hf]
      · exact hph
      · exact .inr rfl

theorem ceased_move {t : Task} (h : Ceased cs c s b) (hm : Move rules k s b t s' b') :
    Ceased cs c s' b' := by
  have hx := (cancelled_of_move hm).trans h.cancelled
  cases t with
  | claim i =>
    obtain ⟨a, hi, he, rfl, -, -, hc⟩ := quit_of_claim h.cancelled hm
    exact h.modify hx (.refl _) hi hc ⟨rfl, rfl, .inr ⟨he, rfl⟩⟩
  | confirmer => exact h.of_same hx (left_of_confirmer hm).1 (unfed_of_confirmer hm)
  | cleaner =>
    cases hm with
    | close => exact h.of_same hx rfl (.refl _)

theorem ceased_outside (h : Ceased cs c s b) (ho : Outside s b s' b') : Ceased cs c s' b' := by
  have hb := unfed_of_outside ho
  cases ho with
  | nothing | setup | drain | confirm | receive | closeOutput => exact h.of_same h.cancelled rfl hb
  | cancel => exact h.of_same rfl rfl hb
  | push item hi => exact h.modify h.cancelled hb hi rfl ⟨rfl, Queue.past_push _ _, .inl rfl⟩
  | shut hi => exact h.modify h.cancelled hb hi rfl ⟨rfl, rfl, .inl rfl⟩
  | start topic partition =>
    refine ⟨h.cancelled, h.unfed.trans hb, fun hj => ?_, fun hj he => ?_⟩
    · obtain ⟨d, hd, hq⟩ := h.claims hj
      exact ⟨d, (List.getElem?_append_left (List.getElem?_eq_some_iff.mp hd).1).trans hd, hq⟩
    · rcases concat_cases he with he | ⟨-, rfl⟩
      · exact h.newcomers hj he
      · exact ⟨rfl, .inl rfl⟩

/-! ## The way to rest -/

/-- How many moves a session that has been told to end is from rest, at most. -/
def remaining (s : Session) (b : Books) : Nat :=
  3 * b.sink.deliveries.waiting.length + s.confirmer.left + s.running +
    if s.stage = .closed then 0 else 1

theorem remaining_of_move {t : Task} (hc : s.cancelled = true) (hm : Move rules k s b t s' b') :
    s'.remaining b' < s.remaining b := by
  unfold remaining running
  cases t with
  | claim i =>
    have hstage := (scene_of_claim hm).1
    obtain ⟨a, hi, he, rfl, hco, -, hcl⟩ := quit_of_claim hc hm
    have hcount := running_of_quit hi he
    rw [hstage, hco, hcl]
    omega
  | confirmer =>
    obtain ⟨hcl, hlt⟩ := left_of_confirmer hm
    rw [hcl, stage_of_confirmer hm]
    omega
  | cleaner =>
    cases hm with
    | close hs => simp [hs]

namespace Run
variable {r p q u : Run} {m : Nat} {t : Task} {run : List Task}

/-- So many moves of tasks, and nothing from outside. -/
inductive Moves (rules : Rules) : Nat → Run → Run → Prop where
  | none (r : Run) : Moves rules 0 r r
  | move {m : Nat} {r q u : Run} {t : Task} : r.step rules t = some q → Moves rules m q u →
      Moves rules (m + 1) r u

theorem Moves.onward (h : Moves rules m r u) : r.Onward rules u := by
  induction h with
  | none => exact .refl
  | move hs _ ih => exact (Onward.refl.move _ hs).trans ih

/-- The tasks of a session that has been told to end cannot go on moving for ever. -/
theorem Moves.bounded (h : Moves rules m r u) (hc : r.session.cancelled = true) :
    m + u.session.remaining u.books ≤ r.session.remaining r.books := by
  induction h with
  | none => omega
  | move hs _ ih =>
    have hm := move_of_run hs
    have := remaining_of_move hc hm
    have := ih ((cancelled_of_move hm).trans hc)
    omega

/-- However they move, they come to rest. -/
theorem comes_to_rest (hc : r.session.cancelled = true) :
    ∃ m u, Moves rules m r u ∧ u.Settled rules := by
  induction hn : r.session.remaining r.books using Nat.strongRecOn generalizing r with
  | _ n ih =>
    by_cases hs : r.Settled rules
    · exact ⟨0, r, .none r, hs⟩
    · obtain ⟨t, ht⟩ := not_forall.mp hs
      obtain ⟨q, hq⟩ := Option.ne_none_iff_exists'.mp ht
      have hm := move_of_run hq
      obtain ⟨m, u, hmu, hu⟩ := ih _ (hn ▸ remaining_of_move hc hm)
        ((cancelled_of_move hm).trans hc) rfl
      exact ⟨m + 1, u, .move hq hmu, hu⟩

/-! ## Who sleeps -/

/-- The runs that one run can come to if the tasks run in the order they were woken, each until it
can make no further move. -/
inductive InTurn (rules : Rules) (r : Run) : Run → Prop where
  | refl : InTurn rules r r
  | event {q : Run} (e : Event) : InTurn rules r q → InTurn rules r (q.event e)
  | turn {q u : Run} {t : Task} (fuel : Nat) : InTurn rules r q → q.next = some (t, u) →
      (Schedule.poll (step rules t) fuel u).step rules t = none →
      InTurn rules r (Schedule.poll (step rules t) fuel u)

/-- Once the session has been told to end every claim that has not ended has been woken, and those in
`run` run already. -/
def Awake (run : List Task) (r : Run) : Prop :=
  r.session.cancelled = true → ∀ i a, r.session.claims[i]? = some a → a.hasEnded = false →
    .claim i ∈ run ++ r.line

/-- Nobody falls asleep, and no claim that has ended goes on. -/
theorem Awake.of_same (h : r.Awake run) (hx : q.session.cancelled = r.session.cancelled)
    (hc : ∀ (i : Nat) (d : Claim), q.session.claims[i]? = some d → d.hasEnded = false →
      ∃ a : Claim, r.session.claims[i]? = some a ∧ a.hasEnded = false)
    (hl : r.line ⊆ q.line) : q.Awake run := by
  intro hq i d hd he
  obtain ⟨a, ha, hn⟩ := hc i d hd he
  exact (List.mem_append.mp (h (hx ▸ hq) i a ha hn)).elim (List.mem_append_left _) fun hm =>
    List.mem_append_right _ (hl hm)

theorem line_wake (r : Run) (t : Task) : r.line ⊆ (r.wake t).line := fun _ hm =>
  Schedule.mem_wake_iff.mpr (.inr hm)

theorem line_wakeReader (r : Run) : r.line ⊆ r.wakeReader.line := by
  unfold wakeReader
  split
  · exact r.line_wake _
  · exact List.Subset.refl _

theorem line_signals (xs : List Signal) (r : Run) : r.line ⊆ (xs.foldl signal r).line := by
  refine List.foldlRecOn (motive := fun v : Run => r.line ⊆ v.line) xs signal
    (List.Subset.refl _) fun v hv x _ => List.Subset.trans hv ?_
  cases x with
  | claim | stream | confirmed => exact v.line_wake _
  | delivery => exact v.line_wakeReader
  | room | ended => exact List.Subset.refl _

theorem line_of_step (h : r.step rules t = some q) : r.line ⊆ q.line := by
  obtain ⟨⟨s, b, xs⟩, -, rfl⟩ := Option.map_eq_some_iff.mp h
  exact line_signals xs { r with session := s, books := b }

theorem awake_step (h : r.Awake run) (hs : r.step rules t = some q) : q.Awake run := by
  have hm := move_of_run hs
  have hx := cancelled_of_move hm
  intro hq
  refine h.of_same hx (fun i d hd he => ?_) (line_of_step hs) hq
  cases t with
  | claim j =>
    obtain ⟨a, -, -, -, -, -, hc⟩ := quit_of_claim (hx ▸ hq) hm
    rw [hc] at hd
    rcases modify_cases hd with hd | ⟨-, a, -, rfl⟩
    · exact ⟨d, hd, he⟩
    · cases he
  | confirmer =>
    rw [(left_of_confirmer hm).1] at hd
    exact ⟨d, hd, he⟩
  | cleaner =>
    generalize q.session = s', q.books = b' at hm hd
    cases hm with
    | close => exact ⟨d, hd, he⟩

/-- A claim that cannot go on has ended. -/
theorem Awake.rest (h : r.Awake [t]) (hs : r.step rules t = none) : r.Awake [] := by
  intro hc i a ha he
  refine (List.mem_cons.mp (h hc i a ha he)).resolve_left fun e => ?_
  subst e
  obtain ⟨q, hq⟩ := step_isSome (t := .claim i) (step_of_cancelled rules 0 r.books hc ha he)
  rw [hs] at hq
  cases hq

theorem awake_feed (h : r.Awake []) (i : Nat) (f : Claim → Claim)
    (hf : ∀ a, (f a).hasEnded = a.hasEnded) : (r.feed i f).2.Awake [] := by
  have hl : r.line ⊆ (r.feed i f).2.line := by
    unfold feed
    split
    · exact List.Subset.refl _
    · split
      · dsimp only
        split
        · exact line_wake { r with session := r.session.modify i f } _
        · exact List.Subset.refl _
      · exact List.Subset.refl _
  rcases outside_of_feed r i f with ⟨hs, -⟩ | ⟨c, -, -, hs, -⟩
  · exact h.of_same (by rw [hs]) (fun j d hd he => ⟨d, hs ▸ hd, he⟩) hl
  · refine h.of_same (by rw [hs]; rfl) (fun j d hd he => ?_) hl
    rw [hs] at hd
    rcases modify_cases hd with hd | ⟨rfl, a, ha, rfl⟩
    · exact ⟨d, hd, he⟩
    · exact ⟨a, ha, (hf a).symm.trans he⟩

theorem awake_event (h : r.Awake []) (e : Event) : (r.event e).Awake [] := by
  have hsame : ∀ {v : Run}, v.session.cancelled = r.session.cancelled →
      v.session.claims = r.session.claims → r.line ⊆ v.line → v.Awake [] := fun hx hc hl =>
    h.of_same hx (fun i d hd he => ⟨d, hc ▸ hd, he⟩) hl
  cases e with
  | setup =>
    show r.setup.2.Awake []
    unfold setup Session.setup
    by_cases hi : r.session.stage = .idle
    · simp only [hi, if_true]
      exact hsame rfl rfl (line_wake _ _)
    · simp only [hi, if_false]
      exact h
  | cleanup =>
    show r.cleanup.2.Awake []
    unfold cleanup Session.drain
    by_cases ha : r.session.stage = .active
    · simp only [ha, if_true]
      exact hsame rfl rfl (line_wake _ _)
    · simp only [ha, if_false]
      exact h
  | cancel =>
    show r.cancel.Awake []
    unfold cancel
    split
    · exact h
    · -- whoever is there is woken
      intro _ i a ha _
      refine Schedule.mem_wakeAll_iff.mpr (.inl (List.mem_map_of_mem ?_))
      exact List.mem_range.mpr (List.getElem?_eq_some_iff.mp ha).1
  | start topic partition =>
    intro hx i a ha he
    refine Schedule.mem_wake_iff.mpr ?_
    rcases concat_cases ha with ha | ⟨rfl, -⟩
    · exact .inr (h hx i a ha he)
    · exact .inl rfl
  | push i item => exact awake_feed h i _ fun _ => rfl
  | close i => exact awake_feed h i _ fun _ => rfl
  | confirm d =>
    have hs : (r.confirm d).session = r.session := by
      unfold confirm wakeReader
      split <;> rfl
    exact hsame (congrArg Session.cancelled hs) (congrArg Session.claims hs)
      (line_wakeReader { r with books := { r.books with sink := r.books.sink.confirm d } })
  | receive =>
    unfold event
    dsimp only
    split
    · exact hsame rfl rfl (List.Subset.refl _)
    · exact h
  | closeOutput => exact hsame rfl rfl (List.Subset.refl _)

/-- The first of the woken tasks begins its turn. -/
theorem awake_next (h : r.Awake []) (hn : r.next = some (t, q)) : q.Awake [t] := by
  unfold next at hn
  split at hn
  · cases hn
  · next hl =>
    cases hn
    intro hc i a ha he
    have := h hc i a ha he
    rwa [hl] at this

/-- No claim that has yet to end sleeps. -/
theorem InTurn.awake (h : r.InTurn rules q) (h0 : r.Awake []) : q.Awake [] := by
  induction h with
  | refl => exact h0
  | event e _ ih => exact awake_event ih e
  | turn fuel _ hn hs ih =>
    exact (Schedule.poll_holds (P := Awake _) awake_step fuel (awake_next ih hn)).rest hs

/-! ## Rest -/

/-- All claims have ended, without losing a slot: every message that waits for its result has one, and
the others are free. -/
structure Vacated (n : Nat) (s : Session) : Prop where
  claims : ∀ a ∈ s.claims, a.hasEnded = true
  held : s.window.held = s.pending.length
  line : s.window.line = []
  free : s.window.free + s.pending.length = max 1 n

/-- When all claims have ended only messages have slots. -/
theorem vacated_of_ended (h : s.Slots n) (hc : ∀ a ∈ s.claims, a.hasEnded = true) : Vacated n s := by
  have hr : s.readers = 0 := List.countP_eq_zero.mpr fun a ha => by
    have := hc a ha
    cases hp : a.phase <;> simp [Claim.hasEnded, hp] at this ⊢
  have hheld : s.window.held = s.pending.length := by rw [h.held, hr, Nat.add_zero]
  have hline : s.window.line = [] := List.eq_nil_iff_forall_not_mem.mpr fun i hi => by
    obtain ⟨a, ha, hp⟩ := Option.map_eq_some_iff.mp ((h.line i).mp hi)
    have := hc a (List.mem_of_getElem? ha)
    simp [Claim.hasEnded, hp] at this
  refine ⟨hc, hheld, hline, ?_⟩
  have ht := h.window.total
  rw [Window.total, (List.append_eq_nil_iff.mp hline).1, hheld] at ht
  simpa [Nat.add_comm] using ht

/-- What has come of run `p` in run `q`, given that the session of `p` had been told to end. -/
structure Stopped (rules : Rules) (n : Nat) (c : Books) (p q : Run) : Prop where
  /-- No claim has begun to handle a message, whatever was queued. -/
  ceased : Ceased p.session.claims p.books q.session q.books
  /-- What a claim does next is end, also where the books are shared with other sessions. -/
  ends : ∀ i a, q.session.claims[i]? = some a → a.hasEnded = false → ∀ k b,
    ∃ s' signals, q.session.stepClaim rules k i b = some (s', b, signals) ∧
      s'.pending = q.session.pending ∧
      s'.claims = q.session.claims.modify i fun c => { c with phase := .ended none }
  /-- Tasks that run when they are woken come to it. -/
  woken : InTurn rules ⟨Session.ofCapacity n, c, []⟩ q →
    ∀ i a, q.session.claims[i]? = some a → a.hasEnded = false → .claim i ∈ q.line
  bounded : ∀ m u, Moves rules m q u → m + u.session.remaining u.books ≤ q.session.remaining q.books
  rests : ∃ m u, Moves rules m q u ∧ u.Settled rules
  vacated : q.Settled rules ∨ InTurn rules ⟨Session.ofCapacity n, c, []⟩ q ∧ q.line = [] →
    Vacated n q.session

/-- **A session that is told to end stops cleanly**: from then on its claims read nothing and end
without a failure, and once no task can move the slots in use are those of the messages that wait. -/
theorem Onward.stopped (hp : Onward rules ⟨Session.ofCapacity n, c, []⟩ p)
    (hc : p.session.cancelled = true) (hq : p.Onward rules q) : Stopped rules n c p q := by
  have hceased : Ceased p.session.claims p.books q.session q.books :=
    hq.holds (ceased_refl hc) ceased_move ceased_outside
  have hslots : q.session.Slots n := (hp.trans hq).slots (slots_ofCapacity n)
  have hwoken : InTurn rules ⟨Session.ofCapacity n, c, []⟩ q →
      ∀ i a, q.session.claims[i]? = some a → a.hasEnded = false → .claim i ∈ q.line :=
    fun ht => ht.awake (fun _ _ _ ha => by simp [Session.ofCapacity] at ha) hceased.cancelled
  refine {
    ceased := hceased
    ends := fun i a ha he k b => quits_of_step hceased.cancelled ha he k b
    woken := hwoken
    bounded := fun m u hm => hm.bounded hceased.cancelled
    rests := comes_to_rest hceased.cancelled
    vacated := fun h => vacated_of_ended hslots fun a ha => ?_ }
  obtain ⟨i, hi⟩ := List.mem_iff_getElem?.mp ha
  rw [← Bool.not_eq_false]
  intro he
  rcases h with hs | ⟨ht, hl⟩
  · exact step_of_cancelled rules 0 q.books hceased.cancelled hi he (stepClaim_of_settled hs i)
  · have := hwoken ht i a hi he
    rw [hl] at this
    cases this

theorem Onward.replay {script : List (Event ⊕ Task)} (h : r.Onward rules q)
    (hr : q.replay rules script = some u) : r.Onward rules u := by
  induction script generalizing q with
  | nil =>
    cases hr
    exact h
  | cons a rest ih =>
    cases a with
    | inl e => exact ih (h.event e) hr
    | inr t =>
      obtain ⟨v, hv, hu⟩ := Option.bind_eq_some_iff.mp hr
      exact ih (h.move t hv) hu

/-- Of four claims one stands in line, one is about to ask, one has a slot with a message and a failure
before it, and one has been granted a slot, while a message waits for its result. -/
theorem Onward.stopped_crowded : ∃ p q : Run,
    Onward plainRules ⟨Session.ofCapacity 3, .empty, []⟩ p ∧ p.session.cancelled = true ∧
    p.Onward plainRules q ∧ Stopped plainRules 3 .empty p q ∧
    p.session.claims.map Claim.phase = [.queued, .admitting, .reading, .queued] ∧
    p.session.window.granted = [3] ∧
    (p.session.claims[2]?.map fun c => c.queue.waiting.length) = some 2 ∧
    q.Settled plainRules ∧
    q.session.claims.map Claim.phase =
      [.ended none, .ended none, .ended none, .ended none] ∧
    q.session.window.held = 1 ∧ q.session.pending.length = 1 := by
  obtain ⟨p, hp, hc, hph, hg, hw, q, hq, hs, hqp, hh, hl⟩ : ∃ p : Run,
      Run.replay plainRules
        [.inl .setup, .inl (.start "t" 0), .inl (.start "t" 1), .inl (.start "t" 2),
          .inl (.start "t" 3), .inr (.claim 0), .inr (.claim 1), .inr (.claim 2), .inr (.claim 3),
          .inl (.push 0 (.message (.plain "t" 0 0 [1]))), .inr (.claim 0), .inr (.claim 0),
          .inl (.push 1 (.message (.plain "t" 1 0 [1, 2, 3, 4]))), .inr (.claim 1),
          .inl (.push 2 (.message (.plain "t" 2 0 [1]))),
          .inl (.push 2 (.failure (.consume "lost"))), .inl .cancel]
        ⟨Session.ofCapacity 3, .empty, []⟩ = some p ∧
      p.session.cancelled = true ∧
      p.session.claims.map Claim.phase = [.queued, .admitting, .reading, .queued] ∧
      p.session.window.granted = [3] ∧
      (p.session.claims[2]?.map fun c => c.queue.waiting.length) = some 2 ∧
      ∃ q : Run, p.replay plainRules
        [.inr (.claim 2), .inr (.claim 3), .inr (.claim 1), .inr (.claim 0), .inr .confirmer] =
          some q ∧
        q.isSettled plainRules = true ∧
        q.session.claims.map Claim.phase =
          [.ended none, .ended none, .ended none, .ended none] ∧
        q.session.window.held = 1 ∧ q.session.pending.length = 1 :=
    ⟨_, rfl, rfl, rfl, rfl, rfl, _, rfl, rfl, rfl, rfl, rfl⟩
  have hp := Onward.refl.replay hp
  have hq := Onward.refl.replay hq
  exact ⟨p, q, hp, hc, hq, hp.stopped hc hq, hph, hg, hw, settled_of_isSettled hs, hqp, hh, hl⟩

end Run
end Session
end Sluice
