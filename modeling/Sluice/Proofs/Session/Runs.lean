import Sluice.Proofs.Session.Slots
/-!
# Runs of one session

A run changes a session and its books by the moves of its tasks and by what is done from outside.
The line of woken tasks decides nothing but the order of the moves.

* `Outside`, `outside_of_event`: all that can be done from outside.
* `Run.Reachable.holds`: what holds at first and is kept by moves and from outside holds throughout.
* `Run.Reachable.slots`: the slots are accounted for in every run.
-/
namespace Sluice.Session

variable {n k i : Nat} {rules : Rules} {s s' : Session} {b b' : Books}

/-- What can be done to a session and its books from outside. -/
inductive Outside (s : Session) (b : Books) : Session → Books → Prop where
  | nothing : Outside s b s b
  | setup : s.stage = .idle →
      Outside s b { s with stage := .active, confirmer := .asking } (b.count .session)
  | drain : s.stage = .active → Outside s b { s with stage := .draining } b
  | cancel : Outside s b { s with cancelled := true } b
  | start (topic : String) (partition : Int) : Outside s b (s.start topic partition) b
  | push {i : Nat} {c : Claim} (item : Item) : s.claims[i]? = some c → c.accepts = true →
      Outside s b (s.modify i fun c => c.push item) b
  | shut {i : Nat} {c : Claim} : s.claims[i]? = some c → c.accepts = true →
      Outside s b (s.modify i fun c => { c with isOpen := false }) b
  | confirm (d : Delivery) : Outside s b s { b with sink := b.sink.confirm d }
  | receive {batch : Batch} {sink : Sink} : b.sink.receive = some (batch, sink) →
      Outside s b s { b with sink := sink }
  | closeOutput : Outside s b s { b with sink := b.sink.closeOutput }

namespace Run
variable {r q : Run}

/-- Passing a signal on wakes tasks and does nothing else. -/
theorem signal_same (r : Run) (x : Signal) :
    (r.signal x).session = r.session ∧ (r.signal x).books = r.books := by
  cases x with
  | delivery =>
    show r.wakeReader.session = _ ∧ r.wakeReader.books = _
    unfold wakeReader
    split <;> exact ⟨rfl, rfl⟩
  | _ => exact ⟨rfl, rfl⟩

theorem signals_same (xs : List Signal) (r : Run) :
    (xs.foldl signal r).session = r.session ∧ (xs.foldl signal r).books = r.books := by
  induction xs generalizing r with
  | nil => exact ⟨rfl, rfl⟩
  | cons x xs ih =>
    obtain ⟨h1, h2⟩ := ih (r.signal x)
    obtain ⟨h3, h4⟩ := signal_same r x
    exact ⟨h1.trans h3, h2.trans h4⟩

/-- A step of a run is a move of its session. -/
theorem move_of_run {t : Task} (h : r.step rules t = some q) :
    Move rules 0 r.session r.books t q.session q.books := by
  obtain ⟨⟨s, b, xs⟩, hs, rfl⟩ := Option.map_eq_some_iff.mp h
  obtain ⟨h1, h2⟩ := signals_same xs { r with session := s, books := b }
  simp only [h1, h2]
  exact move_of_step hs

theorem outside_of_feed (r : Run) (i : Nat) (f : Claim → Claim) :
    ((r.feed i f).2.session = r.session ∧ (r.feed i f).2.books = r.books) ∨
    ∃ c, r.session.claims[i]? = some c ∧ c.accepts = true ∧
      (r.feed i f).2.session = r.session.modify i f ∧ (r.feed i f).2.books = r.books := by
  unfold feed
  split
  · exact .inl ⟨rfl, rfl⟩
  · next c hc =>
    split
    · next ha => exact .inr ⟨c, hc, ha, by simp only; split <;> exact ⟨rfl, rfl⟩⟩
    · exact .inl ⟨rfl, rfl⟩

theorem outside_of_event (r : Run) (e : Event) :
    Outside r.session r.books (r.event e).session (r.event e).books := by
  cases e with
  | setup =>
    show Outside _ _ r.setup.2.session r.setup.2.books
    unfold setup Session.setup
    by_cases h : r.session.stage = .idle
    · simp only [h, if_true]
      exact .setup h
    · simp only [h, if_false]
      exact .nothing
  | cleanup =>
    show Outside _ _ r.cleanup.2.session r.cleanup.2.books
    unfold cleanup Session.drain
    by_cases h : r.session.stage = .active
    · simp only [h, if_true]
      exact .drain h
    · simp only [h, if_false]
      exact .nothing
  | cancel =>
    show Outside _ _ r.cancel.session r.cancel.books
    unfold cancel
    split
    · exact .nothing
    · exact .cancel
  | start topic partition => exact .start topic partition
  | push i item =>
    show Outside _ _ (r.feed i _).2.session (r.feed i _).2.books
    rcases outside_of_feed r i fun c => c.push item with ⟨hs, hb⟩ | ⟨c, hc, ha, hs, hb⟩ <;> rw [hs, hb]
    · exact .nothing
    · exact .push item hc ha
  | close i =>
    show Outside _ _ (r.feed i _).2.session (r.feed i _).2.books
    rcases outside_of_feed r i fun c => { c with isOpen := false } with
      ⟨hs, hb⟩ | ⟨c, hc, ha, hs, hb⟩ <;> rw [hs, hb]
    · exact .nothing
    · exact .shut hc ha
  | confirm d =>
    show Outside _ _ (r.confirm d).session (r.confirm d).books
    unfold confirm wakeReader
    split <;> exact .confirm d
  | receive =>
    simp only [event]
    split
    · next h => exact .receive h
    · exact .nothing
  | closeOutput => exact .closeOutput

/-- What holds at first and is kept by every move and from outside holds throughout. -/
theorem Reachable.holds {P : Session → Books → Prop} (h0 : P (Session.ofCapacity n) .empty)
    (hm : ∀ {s b t s' b'}, P s b → Move rules 0 s b t s' b' → P s' b')
    (ho : ∀ {s b s' b'}, P s b → Outside s b s' b' → P s' b')
    (h : r.Reachable rules n) : P r.session r.books := by
  induction h with
  | start => exact h0
  | event e _ ih => exact ho ih (outside_of_event _ e)
  | move t _ hs ih => exact hm ih (move_of_run hs)

/-! ## Slots -/

theorem slots_outside (h : s.Slots n) (ho : Outside s b s' b') : s'.Slots n := by
  cases ho with
  | nothing | setup | drain | cancel | confirm | receive | closeOutput =>
    exact h.of_same rfl rfl rfl
  | start topic partition =>
    refine ⟨h.window, fun i => ?_, ?_, h.distinct⟩
    · rw [show (s.start topic partition).window = s.window from rfl, h.line]
      unfold phase? Session.start
      rw [List.getElem?_append]
      split
      · rfl
      · next hi =>
        rw [List.getElem?_eq_none (by omega)]
        cases i - s.claims.length <;> simp [Claim.start]
    · rw [show (s.start topic partition).readers = s.readers by
        simp [readers, Session.start, Claim.start]]
      exact h.held
  | push item hc => exact slots_modify h hc rfl
  | shut hc => exact slots_modify h hc rfl

/-- In every run the slots are accounted for. -/
theorem Reachable.slots (h : r.Reachable rules n) : r.session.Slots n :=
  h.holds (P := fun s _ => s.Slots n) (slots_ofCapacity n) slots_move slots_outside

/-! ## Runs on a script -/

/-- Where a run comes to by these events and moves, if all the moves can be made. -/
def replay (rules : Rules) : List (Event ⊕ Task) → Run → Option Run
  | [], r => some r
  | .inl e :: rest, r => replay rules rest (r.event e)
  | .inr t :: rest, r => (r.step rules t).bind (replay rules rest)

theorem Reachable.replay {script : List (Event ⊕ Task)} (h : r.Reachable rules n)
    (hr : r.replay rules script = some q) : q.Reachable rules n := by
  induction script generalizing r with
  | nil =>
    cases hr
    exact h
  | cons a rest ih =>
    cases a with
    | inl e => exact ih (h.event e) hr
    | inr t =>
      obtain ⟨v, hv, hq⟩ := Option.bind_eq_some_iff.mp hr
      exact ih (h.move t hv) hq

/-- Whether no task can move, by asking every task there is. -/
def isSettled (rules : Rules) (r : Run) : Bool :=
  ((List.range r.session.claims.length).all fun i => (r.step rules (.claim i)).isNone) &&
    (r.step rules .confirmer).isNone && (r.step rules .cleaner).isNone

theorem settled_of_isSettled (h : r.isSettled rules = true) : r.Settled rules := by
  simp only [isSettled, Bool.and_eq_true, List.all_eq_true, List.mem_range,
    Option.isNone_iff_eq_none] at h
  obtain ⟨⟨hc, hf⟩, hl⟩ := h
  intro t
  cases t with
  | claim i =>
    by_cases hi : i < r.session.claims.length
    · exact hc i hi
    · simp [step, Session.step, stepClaim, List.getElem?_eq_none (Nat.le_of_not_lt hi)]
  | confirmer => exact hf
  | cleaner => exact hl

/-- A payload of more than three bytes is too long, an empty one has no records, and any other has
one. -/
def plainRules : Rules :=
  ⟨3, none, fun p => if p.isEmpty then .error (.parse "empty") else .ok [Record.named "r"]⟩

end Run
end Sluice.Session
