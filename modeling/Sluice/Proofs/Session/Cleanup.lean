import Sluice.Proofs.Session.Confirmer
/-!
# Cleaning a session up

Once a session is being cleaned up its confirmer lets the stream of results go, reads what is left
and ends; then the session is closed. What is shown here is about a session that alone reads the
stream of its sink.

* `winds_up`: a cleanup comes to its end by the moves of the confirmer.
* `Sealed`: a closed session applies no result.
* `Trail.cleans_up`: what was queued when the cleanup was called is applied before the session is
  closed, and nothing after.
-/
namespace Sluice.Session

variable {n k : Nat} {rules : Rules} {s s' : Session} {b c b' : Books} {fs gs : List Fate}

namespace Run
variable {r q u : Run}

/-- The runs that one run can come to, its tasks moving in any order. -/
inductive Onward (rules : Rules) (r : Run) : Run → Prop where
  | refl : Onward rules r r
  | event {q : Run} (e : Event) : Onward rules r q → Onward rules r (q.event e)
  | move {q u : Run} (t : Task) : Onward rules r q → q.step rules t = some u → Onward rules r u
  /-- A woken task has its turn. -/
  | next {q u : Run} {t : Task} : Onward rules r q → q.next = some (t, u) → Onward rules r u

theorem next_same {t : Task} (h : r.next = some (t, q)) :
    q.session = r.session ∧ q.books = r.books := by
  unfold next at h
  split at h
  · cases h
  · cases h
    exact ⟨rfl, rfl⟩

/-- What holds and is kept by every move and from outside goes on holding. -/
theorem Onward.holds {P : Session → Books → Prop} (h : r.Onward rules q) (h0 : P r.session r.books)
    (hm : ∀ {s b t s' b'}, P s b → Move rules 0 s b t s' b' → P s' b')
    (ho : ∀ {s b s' b'}, P s b → Outside s b s' b' → P s' b') : P q.session q.books := by
  induction h with
  | refl => exact h0
  | event e _ ih => exact ho ih (outside_of_event _ e)
  | move t _ hs ih => exact hm ih (move_of_run hs)
  | next _ hn ih =>
    obtain ⟨h1, h2⟩ := next_same hn
    rw [h1, h2]
    exact ih

theorem Onward.trans (h : r.Onward rules q) (h' : q.Onward rules u) : r.Onward rules u := by
  induction h' with
  | refl => exact h
  | event e _ ih => exact ih.event e
  | move t _ hs ih => exact ih.move t hs
  | next _ hn ih => exact ih.next hn

theorem Onward.told (h : r.Onward rules q) (ht : Told c fs r.session r.books) :
    ∃ gs, Told c (fs ++ gs) q.session q.books := by
  refine h.holds (P := fun s b => ∃ gs, Told c (fs ++ gs) s b) ⟨[], by simpa using ht⟩
    (fun ⟨gs, ht⟩ hm => ?_) fun ⟨gs, ht⟩ ho => ?_
  · obtain ⟨f?, hn, hl⟩ := noted_of_move hm
    have := ht.noted hn fun f d hf hd => (hl f d hf hd).2
    exact ⟨gs ++ f?.toList, by rwa [← List.append_assoc]⟩
  · have := ht.noted (noted_of_outside ho) fun f d hf => by cases hf
    exact ⟨gs, by simpa using this⟩

theorem Onward.tuned (h : r.Onward rules q) (ht : Tuned r.session r.books) :
    Tuned q.session q.books := h.holds ht tuned_move tuned_outside

theorem Onward.slots (h : r.Onward rules q) (hs : r.session.Slots n) : q.session.Slots n :=
  h.holds (P := fun s _ => s.Slots n) hs slots_move slots_outside

theorem Onward.heard {ds : List Delivery} (h : r.Onward rules q) (ht : Tuned r.session r.books)
    (hh : Heard ds r.session r.books) : Heard ds q.session q.books :=
  (h.holds (P := fun s b => Tuned s b ∧ Heard ds s b) ⟨ht, hh⟩
    (fun ⟨ht, hh⟩ hm => ⟨tuned_move ht hm, heard_move hh ht hm⟩)
    fun ⟨ht, hh⟩ ho => ⟨tuned_outside ht ho, heard_outside hh ho⟩).2

/-- A session that is being cleaned up does not come to be served again. -/
theorem Onward.stays (h : r.Onward rules q)
    (hs : r.session.stage = .draining ∨ r.session.stage = .closed) :
    q.session.stage = .draining ∨ q.session.stage = .closed := by
  refine h.holds (P := fun s _ => s.stage = .draining ∨ s.stage = .closed) hs
    (fun {s b t s' b'} hs hm => ?_) fun {s b s' b'} hs ho => ?_
  · cases t with
    | claim i => exact (scene_of_claim hm).1 ▸ hs
    | confirmer => exact stage_of_confirmer hm ▸ hs
    | cleaner =>
      cases hm with
      | close => exact .inr rfl
  · cases ho with
    | setup hi => rcases hs with hs | hs <;> exact absurd (hi.symm.trans hs) nofun
    | drain ha => rcases hs with hs | hs <;> exact absurd (ha.symm.trans hs) nofun
    | _ => exact hs

/-- The moves of the confirmer and of whoever cleans up, and of nobody else. -/
inductive Winds (rules : Rules) : Run → Run → Prop where
  | here (r : Run) : Winds rules r r
  | move {r q u : Run} {t : Task} : t = .confirmer ∨ t = .cleaner → r.step rules t = some q →
      Winds rules q u → Winds rules r u

theorem step_isSome {t : Task} (h : r.session.step rules 0 t r.books ≠ none) :
    ∃ q, r.step rules t = some q := by
  obtain ⟨x, hx⟩ := Option.ne_none_iff_exists'.mp h
  exact ⟨_, by rw [step, hx]; rfl⟩

/-- Whoever cleans up, or the confirmer that is waited for, can go on until the session is closed. -/
theorem step_of_stays (hi : r.session.InStep) (hs : r.session.stage = .draining) :
    ∃ t q, (t = .confirmer ∧ r.session.confirmer ≠ .ended ∨
      t = .cleaner ∧ r.session.confirmer = .ended) ∧ r.step rules t = some q := by
  by_cases he : r.session.confirmer = .ended
  · have hc : r.session.step rules 0 .cleaner r.books ≠ none := by
      simp [Session.step, close?, hs, he]
    obtain ⟨q, hq⟩ := step_isSome hc
    exact ⟨_, q, .inr ⟨rfl, he⟩, hq⟩
  · have hc : r.session.step rules 0 .confirmer r.books ≠ none := step_of_draining hi hs he
    obtain ⟨q, hq⟩ := step_isSome hc
    exact ⟨_, q, .inl ⟨rfl, he⟩, hq⟩

/-- **A cleanup comes to its end**: by the moves of the confirmer and of whoever cleans up alone. -/
theorem winds_up (ht : Tuned r.session r.books)
    (hs : r.session.stage = .draining ∨ r.session.stage = .closed) :
    ∃ u, r.Winds rules u ∧ u.session.stage = .closed := by
  induction hn : 3 * r.books.sink.deliveries.waiting.length + r.session.confirmer.left
    using Nat.strongRecOn generalizing r with
  | _ n ih =>
    rcases hs with hs | hs
    · obtain ⟨t, q, ⟨rfl, he⟩ | ⟨rfl, he⟩, hq⟩ := step_of_stays ht.inStep hs
      · have hm := move_of_run hq
        have hlt := (left_of_confirmer hm).2
        obtain ⟨u, hw, hu⟩ := ih _ (by omega) (tuned_move ht hm)
          (.inl ((stage_of_confirmer hm).trans hs)) rfl
        exact ⟨u, .move (.inl rfl) hq hw, hu⟩
      · have hm := move_of_run hq
        refine ⟨q, .move (.inr rfl) hq (.here q), ?_⟩
        generalize q.session = s', q.books = b' at hm
        cases hm with
        | close => rfl
    · exact ⟨r, .here r, hs⟩

/-! ## Nothing happens after the end -/

/-- What a closed session still writes down, with what it has written down before: it reads no
result, and whatever waited for one goes on waiting. -/
structure Sealed (c : Books) (fs : List Fate) (p : Pending Message) (s : Session) (b : Books) :
    Prop where
  closed : s.stage = .closed
  told : ∃ gs, Told c (fs ++ gs) s b ∧ gs.filterMap Fate.result? = []
  waits : ∀ id m, p.get? id = some m → s.pending.get? id = some m

theorem sealed_noted {f? : Option Fate} {p : Pending Message} (h : Sealed c fs p s b)
    (hn : Noted f? s b s' b') (hs : s'.stage = .closed)
    (hl : ∀ f d, f? = some f → f.result? ≠ some d) : Sealed c fs p s' b' := by
  obtain ⟨gs, ht, hg⟩ := h.told
  refine ⟨hs, ⟨gs ++ f?.toList, ?_, ?_⟩, fun id m hm => ?_⟩
  · rw [← List.append_assoc]
    exact ht.noted hn fun f d hf hd => absurd hd (hl f d hf)
  · rw [List.filterMap_append, hg, List.nil_append]
    cases f? with
    | none => rfl
    | some f =>
      cases hr : f.result? with
      | none => simp [hr]
      | some d => exact absurd hr (hl f d rfl)
  · have hw := h.waits id m hm
    rw [hn.pending]
    cases f? with
    | none => exact hw
    | some f =>
      cases f with
      | submitted j i m' id' records =>
        -- the number is one that nobody waits for
        have hid := (hn.fresh rfl).1
        have hlt := ht.old _ (Pending.mem_of_get? hw)
        show ((s.pending.store id' m').2).get? id = _
        rw [Pending.get?_store, if_neg (by omega)]
        exact hw
      | delivered _ _ id => exact absurd rfl (hl _ ⟨id, true⟩ rfl)
      | undelivered _ _ id => exact absurd rfl (hl _ ⟨id, false⟩ rfl)
      | unknown _ id x => exact absurd rfl (hl _ ⟨id, x⟩ rfl)
      | oversize | unparsed => exact hw

theorem sealed_move {p : Pending Message} {t : Task} (h : Sealed c fs p s b) (ht : Tuned s b)
    (hm : Move rules 0 s b t s' b') : Sealed c fs p s' b' := by
  have hend : s.confirmer = .ended := by
    have hi := ht.inStep
    unfold InStep at hi
    simpa only [h.closed] using hi
  obtain ⟨f?, hn, hl⟩ := noted_of_move hm
  cases t with
  | claim i =>
    exact sealed_noted h hn ((scene_of_claim hm).1.trans h.closed) fun f d hf hd => by
      cases (hl f d hf hd).1
  | confirmer => exact absurd hend (reads_of_confirmer hm).2.1
  | cleaner =>
    cases hm with
    | close hs => exact absurd (hs.symm.trans h.closed) nofun

theorem sealed_outside {p : Pending Message} (h : Sealed c fs p s b) (ho : Outside s b s' b') :
    Sealed c fs p s' b' := by
  refine sealed_noted h (noted_of_outside ho) ?_ fun f d hf => by cases hf
  cases ho with
  | setup hs => exact absurd (hs.symm.trans h.closed) nofun
  | drain hs => exact absurd (hs.symm.trans h.closed) nofun
  | _ => exact h.closed

theorem Onward.sealed {p : Pending Message} (h : r.Onward rules q) (ht : Tuned r.session r.books)
    (hs : Sealed c fs p r.session r.books) : Sealed c fs p q.session q.books :=
  (h.holds (P := fun s b => Tuned s b ∧ Sealed c fs p s b) ⟨ht, hs⟩
    (fun ⟨ht, hs⟩ hm => ⟨tuned_move ht hm, sealed_move hs ht hm⟩)
    fun ⟨ht, hs⟩ ho => ⟨tuned_outside ht ho, sealed_outside hs ho⟩).2

/-! ## Setup and cleanup -/

/-- A call that was accepted. -/
inductive Call where
  | setup
  | cleanup
  deriving DecidableEq, Repr

end Run

/-- The calls that a session has accepted when it has come so far. -/
def Stage.calls : Stage → List Run.Call
  | .idle => []
  | .active => [.setup]
  | .draining => [.setup, .cleanup]
  | .closed => [.setup, .cleanup]

namespace Run
variable {r q : Run} {cs : List Call}

/-- The call that an event is, if it is accepted. -/
def accepted (r : Run) : Event → List Call
  | .setup => if r.setup.1.isNone then [.setup] else []
  | .cleanup => if r.cleanup.1.isNone then [.cleanup] else []
  | _ => []

/-- The runs that a new session with these books can come to, with the calls that it has accepted. -/
inductive Trail (rules : Rules) (n : Nat) (c : Books) : List Call → Run → Prop where
  | start : Trail rules n c [] ⟨Session.ofCapacity n, c, []⟩
  | event {cs : List Call} {r : Run} (e : Event) :
      Trail rules n c cs r → Trail rules n c (cs ++ r.accepted e) (r.event e)
  | move {cs : List Call} {r q : Run} (t : Task) :
      Trail rules n c cs r → r.step rules t = some q → Trail rules n c cs q
  | next {cs : List Call} {r q : Run} {t : Task} :
      Trail rules n c cs r → r.next = some (t, q) → Trail rules n c cs q

theorem Trail.onward (h : Trail rules n c cs r) :
    Onward rules ⟨Session.ofCapacity n, c, []⟩ r := by
  induction h with
  | start => exact .refl
  | event e _ ih => exact ih.event e
  | move t _ hs ih => exact ih.move t hs
  | next _ hn ih => exact ih.next hn

/-- A session is set up if it has not been before; else nothing happens. -/
theorem setup_cases (r : Run) :
    r.session.stage = .idle ∧ r.setup.1 = none ∧ r.setup.2.session.stage = .active ∨
    r.session.stage ≠ .idle ∧ r.setup = (some (misuse "setup" r.session.stage), r) := by
  unfold Run.setup Session.setup
  by_cases h : r.session.stage = .idle
  · rw [if_pos h]
    exact .inl ⟨h, rfl, rfl⟩
  · rw [if_neg h]
    exact .inr ⟨h, rfl⟩

/-- A session that is served is cleaned up; else nothing happens. -/
theorem cleanup_cases (r : Run) :
    r.session.stage = .active ∧ r.cleanup.1 = none ∧ r.cleanup.2.session.stage = .draining ∨
    r.session.stage ≠ .active ∧ r.cleanup = (some (misuse "cleanup" r.session.stage), r) := by
  unfold Run.cleanup Session.drain
  by_cases h : r.session.stage = .active
  · rw [if_pos h]
    exact .inl ⟨h, rfl, rfl⟩
  · rw [if_neg h]
    exact .inr ⟨h, rfl⟩

theorem stage_of_feed (r : Run) (i : Nat) (f : Claim → Claim) :
    (r.feed i f).2.session.stage = r.session.stage := by
  rcases outside_of_feed r i f with ⟨h, -⟩ | ⟨c, -, -, h, -⟩ <;> rw [h]
  rfl

theorem calls_of_event (r : Run) (e : Event) :
    (r.event e).session.stage.calls = r.session.stage.calls ++ r.accepted e := by
  -- every other event leaves the stage as it is
  have hsame : ∀ q : Run, q.session.stage = r.session.stage →
      q.session.stage.calls = r.session.stage.calls ++ [] := fun q hq => by
    rw [hq, List.append_nil]
  cases e with
  | setup =>
    show r.setup.2.session.stage.calls = _ ++ if r.setup.1.isNone then [Call.setup] else []
    rcases setup_cases r with ⟨hs, hn, hq⟩ | ⟨-, e⟩
    · rw [hs, hn, hq]
      rfl
    · rw [e]
      exact hsame r rfl
  | cleanup =>
    show r.cleanup.2.session.stage.calls = _ ++ if r.cleanup.1.isNone then [Call.cleanup] else []
    rcases cleanup_cases r with ⟨hs, hn, hq⟩ | ⟨-, e⟩
    · rw [hs, hn, hq]
      rfl
    · rw [e]
      exact hsame r rfl
  | cancel =>
    refine hsame _ ?_
    show r.cancel.session.stage = _
    unfold cancel
    split <;> rfl
  | start | closeOutput => exact hsame _ rfl
  | push i item => exact hsame _ (stage_of_feed r i _)
  | close i => exact hsame _ (stage_of_feed r i _)
  | confirm d =>
    refine hsame _ ?_
    show (r.confirm d).session.stage = _
    unfold confirm wakeReader
    split <;> rfl
  | receive =>
    refine hsame _ ?_
    unfold event
    dsimp only
    split <;> rfl

theorem Trail.calls (h : Trail rules n c cs r) : cs = r.session.stage.calls := by
  induction h with
  | start => rfl
  | event e _ ih => rw [calls_of_event, ← ih]
  | @move cs r q t _ hs ih =>
    refine ih.trans ?_
    have hm := move_of_run hs
    cases t with
    | claim i => rw [(scene_of_claim hm).1]
    | confirmer => rw [stage_of_confirmer hm]
    | cleaner =>
      generalize q.session = s', q.books = b' at hm ⊢
      cases hm with
      | close hs => rw [hs]; rfl
  | next _ hn ih => rw [(next_same hn).1]; exact ih

/-! ## What a cleanup does -/

/-- Nothing that happens to a closed session `q` reads a result, or frees the slot of a message that
waits for one. -/
structure Silent (q u : Run) : Prop where
  stage : u.session.stage = .closed
  confirmer : u.session.confirmer = .ended
  waits : ∀ id m, q.session.pending.get? id = some m → u.session.pending.get? id = some m
  slots : u.session.window.held = u.session.pending.length + u.session.readers
  past : u.books.sink.deliveries.past = q.books.sink.deliveries.past
  /-- Only messages that are skipped for their length are still marked. -/
  fates : ∃ later, u.books.history = q.books.history ++ later ∧
    later.filterMap Fate.result? = [] ∧ u.books.store = q.books.store.after later
  ignored : ∀ d, (u.confirm d).session = u.session ∧ (u.confirm d).books.store = u.books.store ∧
    (u.confirm d).books.metrics = u.books.metrics ∧ (u.confirm d).books.history = u.books.history

/-- What has come of session `p`, which had begun with books `c`, when its cleanup has led to `q`. -/
structure Drained (rules : Rules) (c : Books) (p q : Run) : Prop where
  stage : q.session.stage = .draining ∨ q.session.stage = .closed
  /-- The cleanup does not wait for anybody but the confirmer, and at rest it has come to its end. -/
  returns : ∃ u, q.Winds rules u ∧ u.session.stage = .closed
  settled : q.Settled rules → q.session.stage = .closed
  ended : q.session.stage = .closed → q.session.confirmer = .ended
  /-- What has been read since is what was queued and what came behind it. Each result was applied
  once, in order, to the message that waited for it, or to none. -/
  applied : ∃ old new, p.books.history = c.history ++ old ∧ q.books.history = p.books.history ++ new ∧
    q.books.sink.deliveries.past = p.books.sink.deliveries.past ++ new.filterMap Fate.result? ∧
    (q.session.stage = .closed → p.books.sink.deliveries.waiting <+: new.filterMap Fate.result?) ∧
    Lawful 0 (old ++ new) ∧ q.session.pending = (old ++ new).foldl Fate.await [] ∧
    q.books.store = p.books.store.after new
  slots : q.session.window.held = q.session.pending.length + q.session.readers
  sealed : q.session.stage = .closed → ∀ u, q.Onward rules u → Silent q u

/-- What can be said of a session with the calls `cs` accepted, that had begun with books `c`. -/
structure CleansUp (rules : Rules) (c : Books) (cs : List Call) (p : Run) : Prop where
  /-- One setup is accepted, and then one cleanup. -/
  calls : cs <+: [.setup, .cleanup]
  setup : p.setup.1 = none ↔ cs = []
  cleanup : p.cleanup.1 = none ↔ cs = [.setup]
  /-- A call that is refused changes nothing. -/
  refuseSetup : p.setup.1 ≠ none → p.setup = (some (misuse "setup" p.session.stage), p)
  refuseCleanup : p.cleanup.1 ≠ none → p.cleanup = (some (misuse "cleanup" p.session.stage), p)
  drains : cs = [.setup] → ∀ q, p.cleanup.2.Onward rules q → Drained rules c p q

theorem calls_eq_nil {st : Stage} : st.calls = [] ↔ st = .idle := by cases st <;> simp [Stage.calls]

theorem calls_eq_setup {st : Stage} : st.calls = [.setup] ↔ st = .active := by
  cases st <;> simp [Stage.calls]

theorem ended_of_closed (h : Tuned s b) (hs : s.stage = .closed) : s.confirmer = .ended := by
  have hi := h.inStep
  unfold InStep at hi
  simpa only [hs] using hi

theorem Onward.silent (h : q.Onward rules u) (ht : Tuned q.session q.books)
    (hs : q.session.Slots n) (hq : Told c fs q.session q.books) (hc : q.session.stage = .closed) :
    Silent q u := by
  have hsealed : Sealed c fs q.session.pending u.session u.books := h.sealed ht
    ⟨hc, ⟨[], by rwa [List.append_nil], rfl⟩, fun _ _ hm => hm⟩
  obtain ⟨gs, hu, hg⟩ := hsealed.told
  refine ⟨hsealed.closed, ended_of_closed (h.tuned ht) hsealed.closed, hsealed.waits,
    (h.slots hs).held, ?_, ⟨gs, ?_, hg, ?_⟩, fun d => ?_⟩
  · rw [hu.past, hq.past, List.filterMap_append, hg, List.append_nil]
  · rw [hu.history, hq.history, List.append_assoc]
  · rw [hu.store, hq.store, OffsetStore.after_append]
  · unfold confirm wakeReader
    split <;> exact ⟨rfl, rfl, rfl, rfl⟩

theorem Onward.drained (h : r.cleanup.2.Onward rules q) (ha : r.session.stage = .active)
    (ht : Tuned r.session r.books) (hs : r.session.Slots n) (hr : Told c fs r.session r.books) :
    Drained rules c r q := by
  have hrq : r.Onward rules q := (Onward.refl.event .cleanup).trans h
  have htq := hrq.tuned ht
  have hsq := hrq.slots hs
  obtain ⟨gs, hq⟩ := hrq.told hr
  have hstage : r.cleanup.2.session.stage = .draining := by
    rcases cleanup_cases r with ⟨-, -, h⟩ | ⟨hn, -⟩
    · exact h
    · exact absurd ha hn
  have hstays := h.stays (.inl hstage)
  -- when the cleanup is called the confirmer has not ended, and these results have been queued
  have hheard : Heard r.books.sink.deliveries.items q.session q.books := by
    refine hrq.heard ht ⟨List.prefix_refl _, fun he => ?_⟩
    have hi := ht.inStep
    unfold InStep at hi
    simp [ha, he] at hi
  have hpast : q.books.sink.deliveries.past =
      r.books.sink.deliveries.past ++ gs.filterMap Fate.result? := by
    rw [hq.past, hr.past, List.filterMap_append, List.append_assoc]
  refine {
    stage := hstays
    returns := winds_up htq hstays
    settled := fun hset => hstays.resolve_left fun hd => ?_
    ended := ended_of_closed htq
    applied := ⟨fs, gs, hr.history, ?_, hpast, fun hc => ?_, hq.lawful, hq.pending, ?_⟩
    slots := hsq.held
    sealed := fun hc u hu => hu.silent htq hsq hq hc }
  · obtain ⟨t, u, -, hu⟩ := step_of_stays htq.inStep hd
    rw [hset t] at hu
    cases hu
  · rw [hq.history, hr.history, List.append_assoc]
  · have := hheard.read (ended_of_closed htq hc)
    rw [← Queue.past_append_waiting, hpast] at this
    exact (List.prefix_append_right_inj _).mp this
  · rw [hq.store, hr.store, OffsetStore.after_append]

/-- **A cleanup drains the session and then seals it.** Whatever was queued when it was called has been
applied when it has come to its end, once and in order; nothing that comes later is. It is accepted
once, after the setup. -/
theorem Trail.cleans_up (h : Trail rules n c cs r) (hc : c.sink.stream = Window.ofCapacity 1) :
    CleansUp rules c cs r := by
  have hr := h.onward
  have hcs := h.calls
  have ht : Tuned r.session r.books := hr.tuned ⟨rfl, hc⟩
  have hs : r.session.Slots n := hr.slots (slots_ofCapacity n)
  have htold : Told c [] (Session.ofCapacity n) c :=
    ⟨(List.append_nil _).symm, rfl, (List.append_nil _).symm, rfl, by simp [Lawful], nofun⟩
  obtain ⟨fs, hf⟩ := hr.told htold
  refine {
    calls := ?_
    setup := ?_
    cleanup := ?_
    refuseSetup := fun hn => ?_
    refuseCleanup := fun hn => ?_
    drains := fun he q hq => hq.drained (calls_eq_setup.mp (hcs.symm.trans he)) ht hs hf }
  · rw [hcs]
    cases r.session.stage <;> decide
  · rw [hcs, calls_eq_nil]
    rcases setup_cases r with ⟨hi, hn, -⟩ | ⟨hi, e⟩
    · simp [hi, hn]
    · simp [hi, e]
  · rw [hcs, calls_eq_setup]
    rcases cleanup_cases r with ⟨hi, hn, -⟩ | ⟨hi, e⟩
    · simp [hi, hn]
    · simp [hi, e]
  · rcases setup_cases r with ⟨-, h0, -⟩ | ⟨-, e⟩
    · exact absurd h0 hn
    · exact e
  · rcases cleanup_cases r with ⟨-, h0, -⟩ | ⟨-, e⟩
    · exact absurd h0 hn
    · exact e

/-- A message waits when its result and one that nobody waits for are queued and the cleanup is
called. Both are applied before the session is closed, and a result that comes later is not. -/
theorem Trail.cleans_up_queued : ∃ p q : Run, Trail plainRules 1 .empty [.setup] p ∧
    CleansUp plainRules .empty [.setup] p ∧
    p.books.sink.deliveries.waiting = [⟨1, true⟩, ⟨9, false⟩] ∧
    p.cleanup.2.Onward plainRules q ∧ q.session.stage = .closed ∧
    q.books.marks = [.plain "t" 0 0 [1]] ∧ q.session.pending = [] ∧
    q.books.metrics.unknown = 1 ∧ q.books.sink.deliveries.waiting = [⟨1, true⟩] := by
  have h : Trail plainRules 1 .empty [] _ := .start
  have h := ((h.event .setup).move (q := _) .confirmer rfl).event (.start "t" 0)
  have h := ((h.move (q := _) (.claim 0) rfl).event
    (.push 0 (.message (.plain "t" 0 0 [1])))).move (q := _) (.claim 0) rfl
  have h := (h.event (.confirm ⟨1, true⟩)).event (.confirm ⟨9, false⟩)
  have here : ∀ {cs r}, Trail plainRules 1 .empty cs r → r.Onward plainRules r := fun _ => .refl
  have ho := (here (h.event .cleanup)).move (u := _) .confirmer rfl
  have ho := ((ho.move (u := _) .confirmer rfl).move (u := _) .confirmer rfl).move (u := _)
    .confirmer rfl
  exact ⟨_, _, h, h.cleans_up rfl, rfl, (ho.move (u := _) .cleaner rfl).event (.confirm ⟨1, true⟩),
    rfl, rfl, rfl, rfl, rfl⟩

end Run
end Sluice.Session
