import Sluice.Proofs.Relay.Coverage
import Sluice.Proofs.Session.Marks
/-!
# Runs of a relay

A trail is a run of a relay from a start: its tasks move in any order, and anything may happen from
outside. It keeps the messages that were marked on the way. Whether a task marks a message, and
which, is read from the state before its move.

* `Trail`: runs, with what they mark.
* `Trail.store`: the stored offsets are those of the marks.
* `Trail.sound`: what lies below a position has been handled.
* `Reachable.trail`, `ByHand.trail`: trails lead to every relay there is.
* `replay`: the run of a script.
-/
namespace Sluice.Relay

/-- The message that the next move of a task marks as done, if it marks one. -/
def marking (w : Relay) (t : Task) : Option Message :=
  match t.session? with
  | some (k, x) => w.sessions[k]?.bind fun h => h.session.marking h.rules w.books x
  | none => none

/-- The relays that a relay comes to, its tasks moving in any order, with the messages marked on the
way, first to last. Groups, sessions and calls are made by hand only where there is no supervisor. -/
inductive Trail (w : Relay) : List Message → Relay → Prop where
  | here : Trail w [] w
  | event {ms : List Message} {v : Relay} (e : Event) : Trail w ms v → Trail w ms (v.apply e)
  | use {ms : List Message} {v : Relay} (u : Use) : Trail w ms v → v.supervisor = none →
      Trail w ms (v.use u)
  | move {ms : List Message} {v u : Relay} (t : Task) : Trail w ms v → v.step t = some u →
      Trail w (ms ++ (v.marking t).toList) u

/-! ## What became of a message -/

/-- A claim has skipped the message for its length. -/
def Skipped (w : Relay) (m : Message) : Prop := ∃ k i, Fate.oversize k i m ∈ w.books.history

/-- A claim has skipped the message because it has no records. -/
def Unparsed (w : Relay) (m : Message) : Prop := ∃ k i, Fate.unparsed k i m ∈ w.books.history

/-- A claim of session `k` has submitted the records of the message as this group. -/
def Submitted (w : Relay) (k : Nat) (m : Message) (id : Nat) : Prop :=
  ∃ i records, Fate.submitted k i m id records ∈ w.books.history

/-- The sink has said that this group was delivered. -/
def Confirmed (w : Relay) (id : Nat) : Prop := ⟨id, true⟩ ∈ w.books.sink.deliveries.items

/-- A session that had submitted the message has taken the result that it was delivered, while it
waited for it. -/
def Delivered (w : Relay) (m : Message) : Prop :=
  ∃ k id, w.Submitted k m id ∧ w.Confirmed id ∧ Fate.delivered k m id ∈ w.books.history

/-- A broker without history, with or without a supervisor that was just started. -/
def Fresh (w : Relay) : Prop := w = empty ∨ ∃ settings, w = empty.start settings

variable {w v u : Relay} {ms ns : List Message}

/-! ## What a step marks -/

theorem marked_of_step {t : Task} (hs : w.step t = some v) :
    Session.Marked w.books (w.marking t) v.books := by
  unfold marking
  cases ht : t.session? with
  | none =>
    obtain ⟨hh, hp⟩ := (hosting_of_step ht hs).same
    exact Session.marked_of_same hh hp
  | some kx =>
    obtain ⟨k, x⟩ := kx
    rw [step_of_session ht] at hs
    obtain ⟨h, s, b, hk, hm, hf⟩ := flow_of_session hs
    obtain ⟨hms, hst⟩ := Session.marks_move hm
    simp only [hk, Option.bind_some]
    exact ⟨(congrArg (fun F : Flow => F.history.filterMap Fate.marked) hf).trans hms,
      (congrArg Flow.store hf).trans hst⟩

namespace Trail

/-- A trail goes on where another ends. -/
theorem append (h : Trail w ms v) (h' : Trail v ns u) : Trail w (ms ++ ns) u := by
  induction h' with
  | here => rwa [List.append_nil]
  | event e _ ih => exact .event e ih
  | use x _ hn ih => exact .use x ih hn
  | move t _ hs ih =>
    rw [← List.append_assoc]
    exact .move t ih hs

/-- What holds at the start of a trail and is kept by handling and hosting holds at its end. -/
theorem holds {P : Flow → Prop} (h : Trail w ms v) (h0 : P w.flow)
    (hh : ∀ {F G o}, P F → F.Handling o G → P G) (ho : ∀ {F G}, P F → F.Hosting G → P G) :
    P v.flow := by
  induction h with
  | here => exact h0
  | event e _ ih => exact ho ih (hosting_of_event _ e)
  | use x _ hn ih => exact ho ih (hosting_of_use _ x hn)
  | @move _ a _ t _ hs ih =>
    cases ht : t.session? with
    | none => exact ho ih (hosting_of_step ht hs)
    | some kx =>
      rw [step_of_session ht] at hs
      obtain ⟨o, hm⟩ := handling_of_session hs
      exact hh ih hm

/-- The marks of a trail are those in the history, and make the stored offsets. -/
theorem marks (h : Trail w ms v) (h0 : Fresh w) :
    v.books.marks = ms ∧ v.books.store = OffsetStore.ofMarks ms := by
  induction h with
  | here => rcases h0 with rfl | ⟨settings, rfl⟩ <;> exact ⟨rfl, rfl⟩
  | event e _ ih =>
    obtain ⟨hh, hs⟩ := (hosting_of_event _ e).same
    exact ⟨(congrArg (List.filterMap Fate.marked) hh).trans ih.1, hs.trans ih.2⟩
  | use x _ hn ih =>
    obtain ⟨hh, hs⟩ := (hosting_of_use _ x hn).same
    exact ⟨(congrArg (List.filterMap Fate.marked) hh).trans ih.1, hs.trans ih.2⟩
  | move t _ hs ih =>
    obtain ⟨hm, hst⟩ := marked_of_step hs
    rw [ih.1] at hm
    rw [ih.2] at hst
    refine ⟨hm, hst.trans ?_⟩
    cases marking _ t with
    | none => simp
    | some m => simp [OffsetStore.ofMarks_append]

/-- What lies below a position has been handled. -/
theorem sound (h : Trail w ms v) (h0 : Fresh w) : v.flow.Sound := by
  refine h.holds ?_ Flow.sound_handling Flow.sound_hosting
  rcases h0 with rfl | ⟨settings, rfl⟩ <;> exact Flow.sound_of_new rfl rfl rfl rfl

/-- The messages that were marked are those that were skipped for their length and those that were
delivered to a session that waited for it. -/
theorem mem_marks_iff (h : Trail w ms v) (h0 : Fresh w) {m : Message} :
    m ∈ ms ↔ v.Skipped m ∨ v.Delivered m := by
  have hd := (h.sound h0).delivered
  rw [← (h.marks h0).1, Books.marks, List.mem_filterMap]
  constructor
  · rintro ⟨f, hf, hm⟩
    cases f with
    | oversize k i m' =>
      cases hm
      exact .inl ⟨k, i, hf⟩
    | delivered k m' id =>
      cases hm
      obtain ⟨hc, hs⟩ := hd k m id hf
      exact .inr ⟨k, id, hs, hc, hf⟩
    | _ => cases hm
  · rintro (⟨k, i, hf⟩ | ⟨k, id, -, -, hf⟩)
    · exact ⟨_, hf, rfl⟩
    · exact ⟨_, hf, rfl⟩

/-- The rules of the supervisor stay what they are. -/
theorem ruled (h : Trail w ms v) : v.flow.ruled = w.flow.ruled :=
  h.holds (P := fun F => F.ruled = w.flow.ruled) rfl (fun hf hm => hm.ruled.trans hf)
    fun hf hm => hm.ruled.trans hf

end Trail

/-! ## Trails lead everywhere -/

theorem Reachable.trail {settings : Settings} (h : Reachable settings w) :
    ∃ ms, Trail (empty.start settings) ms w := by
  induction h with
  | start => exact ⟨_, .here⟩
  | event e _ ih =>
    obtain ⟨ms, h⟩ := ih
    exact ⟨_, .event e h⟩
  | move t _ hs ih =>
    obtain ⟨ms, h⟩ := ih
    exact ⟨_, .move t h hs⟩

theorem ByHand.trail (h : ByHand w) : ∃ ms, Trail empty ms w := by
  induction h with
  | start => exact ⟨_, .here⟩
  | use x _ ih =>
    obtain ⟨ms, h⟩ := ih
    exact ⟨_, .use x h (by simpa [flow, empty] using h.ruled)⟩
  | move t _ hs ih =>
    obtain ⟨ms, h⟩ := ih
    exact ⟨_, .move t h hs⟩

/-! ## Runs on a script -/

/-- Where a relay comes to by these events and moves, and what is marked on the way, if all the
moves can be made. -/
def replay : List (Event ⊕ Task) → Relay → Option (List Message × Relay)
  | [], w => some ([], w)
  | .inl e :: rest, w => replay rest (w.apply e)
  | .inr t :: rest, w =>
    (w.step t).bind fun v => (replay rest v).map fun (ms, u) => ((w.marking t).toList ++ ms, u)

theorem Trail.replay {script : List (Event ⊕ Task)} (h : w.replay script = some (ms, v)) :
    Trail w ms v := by
  induction script generalizing w ms with
  | nil =>
    cases h
    exact .here
  | cons a rest ih =>
    cases a with
    | inl e =>
      have he := (Trail.here (w := w)).event e
      exact he.append (ih h)
    | inr t =>
      obtain ⟨x, hx, hr⟩ := Option.bind_eq_some_iff.mp h
      obtain ⟨⟨ns, y⟩, hy, he⟩ := Option.map_eq_some_iff.mp hr
      cases he
      exact ((Trail.here (w := w)).move t hx).append (ih hy)

theorem Reachable.replay {settings : Settings} {script : List (Event ⊕ Task)}
    (h : Reachable settings w) (hr : w.replay script = some (ms, v)) : Reachable settings v := by
  induction script generalizing w ms with
  | nil =>
    cases hr
    exact h
  | cons a rest ih =>
    cases a with
    | inl e => exact ih (h.event e) hr
    | inr t =>
      obtain ⟨x, hx, hr⟩ := Option.bind_eq_some_iff.mp hr
      obtain ⟨⟨ns, y⟩, hy, he⟩ := Option.map_eq_some_iff.mp hr
      cases he
      exact ih (h.move t hx) hy

/-- Every topic is read, ten messages may wait, and none may be longer than four bytes. -/
def plainSettings : Settings where
  brokers := ["broker"]
  group := "group"
  pattern := ⟨"", fun _ => true⟩
  topicTag := none
  maxUndelivered := 10
  maxMessageLen := 4
  maxProcessingTime := .ofMillis 100
  offset := .oldest
  balance := .range
  refreshInterval := .ofSeconds 60
  fetchSize := none
  reconnectDelay := .ofMillis 10
  channelSize := 16
  clientId := "relay"
  metadataTimeout := .ofSeconds 1
  properties := []
  layout := .standard

/-- Two messages come, the supervisor joins and serves a session, and the claim on their partition
reads them both. -/
def twoRead (first second : List UInt8) : List (Event ⊕ Task) :=
  [.inl (.createTopic "t" 1), .inl (.produce ⟨"t", 0⟩ first), .inl (.produce ⟨"t", 0⟩ second),
    .inr .loop, .inr .loop, .inr .loop, .inr (.feeder 0 0), .inr (.feeder 0 0), .inr (.feeder 0 0),
    .inr (.claim 0 0), .inr (.claim 0 0), .inr (.claim 0 0), .inr (.claim 0 0)]

end Sluice.Relay
