import Sluice.Proofs.Session.Results
import Sluice.Proofs.Session.Runs
/-!
# What a confirmer has read

Of a session that alone reads the stream of its sink: what it has written down since it began, how far
its confirmer has come, and which results that has read. The books may have been written in before.

* `Told`: what a session has written down, and what follows from it.
* `Tuned`: how far the confirmer has come, and that it has the stream while it waits for a result.
* `Heard`: once the confirmer has ended it has read all that had been queued before.
* `step_of_draining`: while its session is cleaned up, it waits for nobody.
-/
namespace Sluice.Session

variable {n k : Nat} {rules : Rules} {s s' : Session} {b c b' : Books} {fs gs : List Fate}

/-! ## What is written down -/

/-- Every result was written down as what waited for it at that time decides. -/
def Lawful (k : Nat) (fs : List Fate) : Prop :=
  ∀ before f after d, fs = before ++ f :: after → f.result? = some d →
    f = fate k (before.foldl Fate.await []) d

/-- What session 0 has written down since it began with books `c`, and what it waits for by that. -/
structure Told (c : Books) (fs : List Fate) (s : Session) (b : Books) : Prop where
  history : b.history = c.history ++ fs
  pending : s.pending = fs.foldl Fate.await []
  past : b.sink.deliveries.past = c.sink.deliveries.past ++ fs.filterMap Fate.result?
  store : b.store = c.store.after fs
  lawful : Lawful 0 fs
  /-- Only numbers that were given are waited for. -/
  old : ∀ e ∈ s.pending, e.1 < b.sink.nextId

theorem lawful_concat {f : Fate} (h : Lawful k fs)
    (hf : ∀ d, f.result? = some d → f = fate k (fs.foldl Fate.await []) d) : Lawful k (fs ++ [f]) := by
  intro before g after d he hd
  rcases List.eq_nil_or_concat after with rfl | ⟨after, x, rfl⟩
  · obtain ⟨rfl, e⟩ := List.append_inj' he rfl
    cases e
    exact hf d hd
  · rw [List.concat_eq_append, ← List.cons_append, ← List.append_assoc] at he
    obtain ⟨rfl, -⟩ := List.append_inj' he rfl
    exact h before g after d rfl hd

theorem mem_await {p : Pending Message} {f : Fate} {e : Nat × Message} (h : e ∈ f.await p) :
    e ∈ p ∨ ∃ j i records, f = .submitted j i e.2 e.1 records := by
  cases f with
  | submitted j i m id records =>
    rcases Pending.mem_store h with h | rfl
    · exact .inl h
    · exact .inr ⟨j, i, records, rfl⟩
  | delivered | undelivered => exact .inl (Pending.mem_of_mem_remove h)
  | oversize | unparsed | unknown => exact .inl h

/-- What is written down by one more step. -/
theorem Told.noted {f? : Option Fate} (h : Told c fs s b) (hn : Noted f? s b s' b')
    (hl : ∀ f d, f? = some f → f.result? = some d → f = fate 0 s.pending d) :
    Told c (fs ++ f?.toList) s' b' := by
  cases f? with
  | none =>
    have hp : s'.pending = s.pending := hn.pending
    have hd : b'.sink.deliveries.past = b.sink.deliveries.past := by simpa using hn.past
    have hs : b'.store = b.store := hn.store
    have hh : b'.history = b.history := by simpa using hn.history
    rw [Option.toList_none, List.append_nil]
    exact ⟨hh.trans h.history, hp.trans h.pending, hd.trans h.past, hs.trans h.store, h.lawful,
      fun e he => Nat.lt_of_lt_of_le (h.old e (hp ▸ he)) hn.nextId⟩
  | some f =>
    have hp : s'.pending = f.await s.pending := hn.pending
    rw [Option.toList_some]
    refine ⟨?_, ?_, ?_, ?_, ?_, ?_⟩
    · rw [hn.history, h.history, List.append_assoc]
      rfl
    · rw [hp, h.pending, List.foldl_append]
      rfl
    · rw [hn.past, h.past, List.filterMap_append, List.append_assoc]
      cases hr : f.result? <;> simp [hr]
    · rw [hn.store, OffsetStore.after_append, ← h.store]
      cases hm : f.marked <;> simp [OffsetStore.after, hm]
    · exact lawful_concat h.lawful fun d hd => h.pending ▸ hl f d rfl hd
    · intro e he
      rw [hp] at he
      rcases mem_await he with he | ⟨j, i, records, rfl⟩
      · exact Nat.lt_of_lt_of_le (h.old e he) hn.nextId
      · exact (hn.fresh rfl).2

theorem noted_of_outside (ho : Outside s b s' b') : Noted none s b s' b' := by
  cases ho with
  | nothing | setup | drain | cancel | start | push | shut | closeOutput =>
    exact noted_none rfl rfl rfl rfl (List.prefix_refl _) rfl
  | confirm d =>
    exact noted_none rfl rfl (Queue.past_push _ d) rfl (List.prefix_append _ _) rfl
  | receive hr =>
    obtain ⟨x, -, he⟩ := Option.map_eq_some_iff.mp hr
    cases he
    exact noted_none rfl rfl rfl rfl (List.prefix_refl _) rfl

/-! ## How far a session and its confirmer have come -/

/-- Before its setup a session has no confirmer, and once it is closed its confirmer has ended. -/
def InStep (s : Session) : Prop :=
  match s.stage with
  | .idle => s.confirmer = .absent
  | .active => s.confirmer = .asking ∨ s.confirmer = .reading
  | .draining => s.confirmer ≠ .absent ∧ s.confirmer ≠ .queued
  | .closed => s.confirmer = .ended

/-- The confirmer has the stream of results while it waits for one, and else the stream is free. -/
structure Tuned (s : Session) (b : Books) : Prop where
  inStep : s.InStep
  stream : b.sink.stream = if s.confirmer = .reading then ⟨1, 0, [], [], 1⟩ else Window.ofCapacity 1

theorem Tuned.of_same (h : Tuned s b) (hs : s'.stage = s.stage) (hc : s'.confirmer = s.confirmer)
    (hb : b'.sink.stream = b.sink.stream) : Tuned s' b' := by
  refine ⟨?_, by rw [hb, hc]; exact h.stream⟩
  unfold InStep
  rw [hs, hc]
  exact h.inStep

theorem InStep.unqueued (h : s.InStep) : s.confirmer ≠ .queued := by
  unfold InStep at h
  cases hs : s.stage <;> simp only [hs] at h
  · simp [h]
  · rcases h with h | h <;> simp [h]
  · exact h.2
  · simp [h]

/-- A confirmer that goes on does so while its session is cleaned up. -/
theorem InStep.draining (h : s.InStep) (ha : s.confirmer ≠ .absent) (he : s.confirmer ≠ .ended)
    (hs : s.stage ≠ .active) : s.stage = .draining := by
  unfold InStep at h
  cases hst : s.stage <;> simp only [hst] at h
  · exact absurd h ha
  · exact absurd hst hs
  · rfl
  · exact absurd h he

/-- The confirmer goes on while its session is cleaned up. -/
theorem InStep.goOn (h : s.InStep) (ha : s.confirmer ≠ .absent) (he : s.confirmer ≠ .ended)
    (hs : s.stage ≠ .active) {f : Confirmer} (hf : f ≠ .absent ∧ f ≠ .queued) :
    InStep { s with confirmer := f } := by
  unfold InStep
  simp only [h.draining ha he hs]
  exact hf

/-- Whoever reads lets the stream go. -/
theorem Tuned.letGo (h : Tuned s b) (hr : s.confirmer = .reading) {c : Confirmer}
    (hc : c ≠ .reading) (hi : InStep { s with confirmer := c }) :
    Tuned { s with confirmer := c } (withStream b b.sink.stream.release.2) := by
  refine ⟨hi, ?_⟩
  show b.sink.stream.release.2 = if c = .reading then _ else _
  rw [if_neg hc, h.stream, if_pos hr]
  rfl

theorem tuned_apply {d : Delivery} (k : Nat) (h : Tuned s b) :
    Tuned (s.apply k d b).1 (s.apply k d b).2.1 := by
  obtain ⟨h1, -, -, h4, -, h6⟩ := apply_same k d s b
  exact h.of_same h1 h4 (by rw [h6])

theorem tuned_move {t : Task} (h : Tuned s b) (hm : Move rules k s b t s' b') : Tuned s' b' := by
  have hi := h.inStep
  have hst := h.stream
  -- the confirmer does not read, before and after
  have hkeep : ∀ {c : Confirmer}, s.confirmer ≠ .reading → c ≠ .reading →
      InStep { s with confirmer := c } → Tuned { s with confirmer := c } b := fun hb ha hc =>
    ⟨hc, by rw [if_neg ha, hst, if_neg hb]⟩
  cases t with
  | claim i =>
    obtain ⟨h1, h2, h3⟩ := scene_of_claim hm
    exact h.of_same h1 h2 h3
  | cleaner =>
    cases hm with
    | close _ hc => exact ⟨hc, hst⟩
  | confirmer =>
    cases hm with
    | dismissed hc hs =>
      exact hkeep (by simp [hc]) nofun
        (hi.goOn (by simp [hc]) (by simp [hc]) hs ⟨nofun, nofun⟩)
    | tune hc hs hw =>
      rw [hst, if_neg (by simp [hc])] at hw
      cases hw
      refine ⟨?_, rfl⟩
      unfold InStep
      simp [hs]
    | attend hc hs hw =>
      rw [hst, if_neg (by simp [hc])] at hw
      cases hw
    | forgo hc | receive hc => exact absurd hc hi.unqueued
    | letGo hc hs =>
      exact h.letGo hc nofun (hi.goOn (by simp [hc]) (by simp [hc]) hs ⟨nofun, nofun⟩)
    | result hc hs hd =>
      obtain ⟨q, -, rfl⟩ := nextDelivery_same hd
      refine tuned_apply k (Tuned.of_same (s := { s with confirmer := .asking })
        (b := withStream b b.sink.stream.release.2) (h.letGo hc nofun ?_) rfl rfl rfl)
      unfold InStep
      simp [hs]
    | leftover hc hd =>
      obtain ⟨q, -, rfl⟩ := nextDelivery_same (nextDelivery_of_tryNext hd)
      exact tuned_apply k (h.of_same rfl rfl rfl)
    | drained hc hd =>
      refine hkeep (by simp [hc]) nofun (hi.goOn (by simp [hc]) (by simp [hc]) ?_ ⟨nofun, nofun⟩)
      intro hs
      unfold InStep at hi
      simp [hs, hc] at hi

theorem tuned_outside (h : Tuned s b) (ho : Outside s b s' b') : Tuned s' b' := by
  have hi := h.inStep
  cases ho with
  | nothing | cancel | start | push | shut | confirm | closeOutput => exact h.of_same rfl rfl rfl
  | receive hr =>
    obtain ⟨x, -, he⟩ := Option.map_eq_some_iff.mp hr
    cases he
    exact h.of_same rfl rfl rfl
  | setup hs =>
    unfold InStep at hi
    simp only [hs] at hi
    refine ⟨.inl rfl, ?_⟩
    show b.sink.stream = _
    rw [h.stream, hi]
    rfl
  | drain hs =>
    refine ⟨?_, h.stream⟩
    unfold InStep at hi ⊢
    simp only [hs] at hi
    rcases hi with hi | hi <;> simp [hi]

/-! ## What the confirmer has read -/

/-- These results have been queued, and once the confirmer has ended they have been read. -/
structure Heard (ds : List Delivery) (s : Session) (b : Books) : Prop where
  queued : ds <+: b.sink.deliveries.items
  read : s.confirmer = .ended → ds <+: b.sink.deliveries.past

theorem Noted.past_prefix {f? : Option Fate} (hn : Noted f? s b s' b') :
    b.sink.deliveries.past <+: b'.sink.deliveries.past := hn.past ▸ List.prefix_append _ _

/-- Nobody else has the stream when the confirmer finds no result in it, so there is none. -/
theorem past_of_drained (h : Tuned s b) (hc : s.confirmer = .draining) (hd : b.sink.tryNext = none) :
    b.sink.deliveries.past = b.sink.deliveries.items := by
  have hst := h.stream
  rw [if_neg (by simp [hc])] at hst
  unfold Sink.tryNext at hd
  rw [if_neg (by rw [hst]; decide)] at hd
  have hw := (Queue.pop?_eq_none_iff _).mp (Option.map_eq_none_iff.mp hd)
  rw [← Queue.past_append_waiting, hw, List.append_nil]

theorem heard_move {ds : List Delivery} {t : Task} (h : Heard ds s b) (ht : Tuned s b)
    (hm : Move rules k s b t s' b') : Heard ds s' b' := by
  obtain ⟨f?, hn, -⟩ := noted_of_move hm
  refine ⟨h.queued.trans hn.items, fun he => ?_⟩
  have hold : s.confirmer = .ended → ds <+: b'.sink.deliveries.past := fun hc =>
    (h.read hc).trans hn.past_prefix
  cases t with
  | claim i => exact hold ((scene_of_claim hm).2.1 ▸ he)
  | cleaner =>
    cases hm with
    | close _ hc => exact hold hc
  | confirmer =>
    obtain ⟨-, -, -, ⟨-, hd, -, hend⟩ | ⟨d, q, -, -, -, -, hne⟩⟩ := reads_of_confirmer hm
    · obtain ⟨hc, hnone⟩ := hend he
      rw [hd, past_of_drained ht hc hnone]
      exact h.queued
    · exact absurd he hne

theorem heard_outside {ds : List Delivery} (h : Heard ds s b) (ho : Outside s b s' b') :
    Heard ds s' b' := by
  have hn := noted_of_outside ho
  refine ⟨h.queued.trans hn.items, fun he => ?_⟩
  have hc : s.confirmer = .ended := by
    cases ho with
    | setup => cases he
    | _ => exact he
  exact (h.read hc).trans hn.past_prefix

/-! ## The confirmer ends -/

theorem stage_of_confirmer (hm : Move rules k s b .confirmer s' b') : s'.stage = s.stage := by
  cases hm with
  | dismissed | tune | attend | forgo | receive | letGo | drained => rfl
  | @result d sink => exact (apply_same k d { s with confirmer := .asking } (taken b sink)).1
  | @leftover d sink => exact (apply_same k d s { b with sink := sink }).1

/-- While its session is cleaned up a confirmer can go on until it has ended. -/
theorem step_of_draining (hi : s.InStep) (hs : s.stage = .draining) (he : s.confirmer ≠ .ended) :
    s.stepConfirmer k b ≠ none := by
  unfold InStep at hi
  simp only [hs] at hi
  have hne : s.stage ≠ .active := by simp [hs]
  unfold stepConfirmer
  cases hc : s.confirmer with
  | absent => exact absurd hc hi.1
  | queued => exact absurd hc hi.2
  | ended => exact absurd hc he
  | asking => simp [hne]
  | reading => simp [hne]
  | draining => cases b.sink.tryNext <;> simp

end Sluice.Session
