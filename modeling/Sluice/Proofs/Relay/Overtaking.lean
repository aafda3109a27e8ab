import Sluice.Proofs.Relay.Positions
/-!
# Which messages are lost

A position stands behind the highest message that was marked, so it may pass messages that still
wait for their results, or whose results were bad; no later session reads them again. This happens
in one way only: a later message of the same partition is marked first. Nothing below a position has
been passed over unread.

* `Flow.Ruled`: under one supervisor all sessions handle a message alike.
* `read_of_below`: what lies below a position has been read.
* `Reachable.lost_iff_overtaken`: a message is lost exactly if it was overtaken.
-/
namespace Sluice

/-- The fate of a message is the one that these rules give it. -/
def Fate.Follows (r : Rules) : Fate → Prop
  | .oversize _ _ m => r.tooLong m = true
  | .unparsed _ _ m => r.tooLong m = false ∧ ∃ e, r.parse m.payload = .error e
  | .submitted _ _ m _ _ => r.tooLong m = false ∧ ∃ xs, r.parse m.payload = .ok xs
  | _ => True

namespace Flow
variable {F G : Flow} {r : Rules}

/-- All sessions have the supervisor's rules, and all messages were handled by them. -/
structure Ruled (r : Rules) (F : Flow) : Prop where
  ruled : F.ruled = some r
  loads : ∀ l ∈ F.loads, l.rules = r
  follows : ∀ f ∈ F.history, f.Follows r

/-- Changing what a session keeps does not change its rules. -/
theorem Ruled.modify (h : F.Ruled r) (k : Nat) {f : Load → Load} (hf : ∀ l, (f l).rules = l.rules) :
    (F.modify k f).Ruled r := by
  refine ⟨h.ruled, fun l hl => ?_, h.follows⟩
  obtain ⟨j, hj⟩ := List.mem_iff_getElem?.mp hl
  rcases modify_cases hj with hj | ⟨-, a, ha, rfl⟩
  · exact h.loads l (List.mem_of_getElem? hj)
  · exact (hf a).trans (h.loads a (List.mem_of_getElem? ha))

theorem Ruled.note (h : F.Ruled r) {f : Fate} (hf : f.Follows r) : (F.note f).Ruled r := by
  refine ⟨h.ruled, h.loads, fun x hx => ?_⟩
  rcases List.mem_append.mp hx with hx | hx
  · exact h.follows x hx
  · rwa [List.mem_singleton.mp hx]

theorem ruled_handling {o : Option Fate} (h : F.Ruled r) (hs : F.Handling o G) : G.Ruled r := by
  have hr := fun {k : Nat} {l : Load} (hk : F.loads[k]? = some l) =>
    h.loads l (List.mem_of_getElem? hk)
  cases hs with
  | nothing => exact h
  | spoil => exact h.modify _ fun _ => rfl
  | oversize hk _ _ ht =>
    rw [hr hk] at ht
    refine Ruled.note (h.modify _ fun _ => by rfl) ?_
    exact ht
  | unparsed hk _ _ ht he =>
    rw [hr hk] at ht he
    refine Ruled.note (h.modify _ fun _ => by rfl) ?_
    exact ⟨ht, _, he⟩
  | @submit k i l q m q' xs records ds hk _ _ ht he _ =>
    rw [hr hk] at ht he
    have hn : (F.numbered ds).Ruled r := ⟨h.ruled, h.loads, h.follows⟩
    refine Ruled.note (hn.modify _ fun _ => by rfl) ?_
    exact ⟨ht, _, he⟩
  | @unknown k l d ds =>
    have ht : (F.took ds).Ruled r := ⟨h.ruled, h.loads, h.follows⟩
    refine ht.note ?_
    trivial
  | @delivered k l d ds | @undelivered k l d ds =>
    have ht : (F.took ds).Ruled r := ⟨h.ruled, h.loads, h.follows⟩
    refine Ruled.note (ht.modify _ fun _ => by rfl) ?_
    trivial

theorem ruled_hosting (h : F.Ruled r) (hs : F.Hosting G) : G.Ruled r := by
  cases hs with
  | nothing => exact h
  | enlist s hs =>
    have hr : s = r := by
      rcases hs with hs | hs <;> rw [h.ruled] at hs <;> cases hs
      rfl
    refine ⟨h.ruled, fun l hl => ?_, h.follows⟩
    rcases List.mem_append.mp hl with hl | hl
    · exact h.loads l hl
    · rw [List.mem_singleton.mp hl]
      exact hr
  | assign | fail | begin | rest | supply => exact h.modify _ fun _ => rfl
  | append | confirm => exact ⟨h.ruled, h.loads, h.follows⟩

end Flow

namespace Relay
variable {w : Relay} {settings : Settings} {m : Message}

/-- Nobody needs to read the message again: the sink has confirmed its records, or it was skipped. -/
def Safe (w : Relay) (m : Message) : Prop :=
  (∃ k id, w.Submitted k m id ∧ w.Confirmed id) ∨ w.Skipped m ∨ w.Unparsed m

/-- The message lies below the position of its partition. -/
def Below (w : Relay) (m : Message) : Prop :=
  ∃ p, ∃ o : Nat, (w.broker.log p)[o]? = some m ∧ ∃ n, w.position p = some n ∧ o < n

/-- No session will read the message again, and it is not safe. -/
def Lost (w : Relay) (m : Message) : Prop := w.Below m ∧ ¬ w.Safe m

/-- The message was submitted and the sink has not confirmed it, but a later message of its
partition was marked. -/
def Overtaken (w : Relay) (m : Message) : Prop :=
  (∃ k id, w.Submitted k m id) ∧ (∀ k id, w.Submitted k m id → ¬ w.Confirmed id) ∧
    ∃ later ∈ w.books.marks, later.source = m.source ∧ m.offset < later.offset

theorem Reachable.sound (h : Reachable settings w) : w.flow.Sound := by
  obtain ⟨ms, ht⟩ := h.trail
  exact ht.sound (.inr ⟨_, rfl⟩)

theorem Reachable.ruled (h : Reachable settings w) : w.flow.Ruled settings.rules := by
  obtain ⟨ms, ht⟩ := h.trail
  refine ht.holds ?_ Flow.ruled_handling Flow.ruled_hosting
  exact ⟨rfl, nofun, nofun⟩

/-- A message that was submitted was neither too long nor without records. -/
theorem Reachable.not_skipped (h : Reachable settings w) {k id : Nat} (hs : w.Submitted k m id) :
    ¬ w.Skipped m ∧ ¬ w.Unparsed m := by
  have hf := h.ruled.follows
  obtain ⟨i, records, hs⟩ := hs
  obtain ⟨ht, xs, hx⟩ := hf _ hs
  refine ⟨fun ⟨k', i', hm⟩ => ?_, fun ⟨k', i', hm⟩ => ?_⟩
  · have := hf _ hm
    simp only [Fate.Follows, ht, Bool.false_eq_true] at this
  · obtain ⟨-, e, he⟩ := hf _ hm
    rw [hx] at he
    cases he

/-- A position stands where the marks have moved it. -/
theorem position_of_sound (h : w.flow.Sound) (p : Partition) :
    w.position p = (OffsetStore.ofMarks w.books.marks).position p :=
  congrArg (fun s : OffsetStore => s.position p) h.store

/-- What lies below a position has been read by some claim. -/
theorem read_of_below (h : w.flow.Sound) (hb : w.Below m) :
    (∃ k id, w.Submitted k m id) ∨ w.Skipped m ∨ w.Unparsed m := by
  obtain ⟨p, o, hm, n, hp, hn⟩ := hb
  obtain ⟨z, rfl, hc⟩ := h.position hp
  obtain ⟨m', hm', f, hf, hr⟩ := hc o (by omega)
  cases Option.some.inj (hm.symm.trans hm')
  cases f with
  | oversize k i m' =>
    cases hr
    exact .inr (.inl ⟨k, i, hf⟩)
  | unparsed k i m' =>
    cases hr
    exact .inr (.inr ⟨k, i, hf⟩)
  | submitted k i m' id records =>
    cases hr
    exact .inl ⟨k, id, i, records, hf⟩
  | _ => cases hr

/-- A message that was submitted is in its log. -/
theorem logged_of_submitted (h : w.flow.Sound) {k id : Nat} (hs : w.Submitted k m id) :
    ∃ o : Nat, m.offset = o ∧ (w.broker.log m.source)[o]? = some m := by
  obtain ⟨i, records, hs⟩ := hs
  obtain ⟨o, hm, ho, -⟩ := h.reads _ hs m rfl
  exact ⟨o, ho, hm⟩

/-- A message that was marked is safe. -/
theorem Reachable.safe_of_mark (h : Reachable settings w) (hm : m ∈ w.books.marks) : w.Safe m := by
  obtain ⟨ms, ht⟩ := h.trail
  rw [(ht.marks (.inr ⟨_, rfl⟩)).1, ht.mem_marks_iff (.inr ⟨_, rfl⟩)] at hm
  rcases hm with hm | ⟨k, id, hs, hc, -⟩
  · exact .inr (.inl hm)
  · exact .inl ⟨k, id, hs, hc⟩

/-- What is lost was overtaken: the position stands behind some other message, and that is later. -/
theorem Reachable.overtaken_of_lost (h : Reachable settings w) (hl : w.Lost m) : w.Overtaken m := by
  obtain ⟨hb, hn⟩ := hl
  have hs := h.sound
  have hsub : ∃ k id, w.Submitted k m id := by
    rcases read_of_below hs hb with hr | hr
    · exact hr
    · exact absurd (.inr hr) hn
  refine ⟨hsub, fun k id hk hc => hn (.inl ⟨k, id, hk, hc⟩), ?_⟩
  obtain ⟨p, o, hm, n, hp, ho⟩ := hb
  obtain ⟨rfl, he⟩ := hs.numbered p o m hm
  rw [position_of_sound hs] at hp
  obtain ⟨⟨later, hlm, hls, rfl⟩, -⟩ := OffsetStore.position_eq_some_iff.mp hp
  refine ⟨later, hlm, hls, ?_⟩
  by_contra hlt
  -- The position would stand right behind the message itself, which is then marked and safe.
  obtain ⟨o', hm', ho', -⟩ := hs.marks hlm
  rw [hls, show o' = o by omega] at hm'
  cases Option.some.inj (hm.symm.trans hm')
  exact hn (h.safe_of_mark hlm)

/-- What was overtaken is lost: the position stands behind the later message, or behind one that is
later still. -/
theorem Reachable.lost_of_overtaken (h : Reachable settings w) (ho : w.Overtaken m) : w.Lost m := by
  obtain ⟨⟨k, id, hk⟩, hn, later, hlm, hls, hlt⟩ := ho
  have hs := h.sound
  refine ⟨?_, ?_⟩
  · obtain ⟨o, ho, hm⟩ := logged_of_submitted hs hk
    refine ⟨m.source, o, hm, ?_⟩
    cases hp : w.position m.source with
    | none =>
      rw [position_of_sound hs] at hp
      exact absurd hls (OffsetStore.position_eq_none_iff.mp hp later hlm)
    | some n =>
      rw [position_of_sound hs] at hp
      have := (OffsetStore.position_eq_some_iff.mp hp).2 later hlm hls
      exact ⟨n, rfl, by omega⟩
  · obtain ⟨hx, hu⟩ := h.not_skipped hk
    rintro (⟨k', id', hk', hc⟩ | hc | hc)
    · exact hn k' id' hk' hc
    · exact hx hc
    · exact hu hc

/-- **What is lost.** In every relay that a supervisor comes to, whatever the order of its tasks:
every message below a position has been read, and was submitted, skipped for its length, or skipped
for want of records; and such a message is neither confirmed nor skipped exactly if it was
submitted, is not confirmed, and a later message of its partition has been marked. So a relay that
never marks a message before the earlier ones of its partition are safe loses none. -/
theorem Reachable.lost_iff_overtaken (h : Reachable settings w) :
    (∀ m, w.Below m → (∃ k id, w.Submitted k m id) ∨ w.Skipped m ∨ w.Unparsed m) ∧
    (∀ m, w.Lost m ↔ w.Overtaken m) ∧
    ((∀ m, w.Below m → w.Safe m) ↔ ∀ m, ¬ w.Overtaken m) := by
  have key : ∀ m, w.Lost m ↔ w.Overtaken m := fun m =>
    ⟨h.overtaken_of_lost, h.lost_of_overtaken⟩
  refine ⟨fun m => read_of_below h.sound, key, fun hsafe m ho => ?_, fun hn m hb => ?_⟩
  · obtain ⟨hb, hns⟩ := (key m).mpr ho
    exact hns (hsafe m hb)
  · by_contra hns
    exact hn m ((key m).mp ⟨hb, hns⟩)

/-- One message waits while the next is delivered: the position passes it, and it is lost. -/
theorem Reachable.lost_iff_overtaken_waiting : ∃ w : Relay, Reachable plainSettings w ∧
    w.position ⟨"t", 0⟩ = some 2 ∧ (∃ h ∈ w.sessions, h.session.pending.length = 1) ∧
    ((∀ m, w.Below m → (∃ k id, w.Submitted k m id) ∨ w.Skipped m ∨ w.Unparsed m) ∧
    (∀ m, w.Lost m ↔ w.Overtaken m) ∧
    ((∀ m, w.Below m → w.Safe m) ↔ ∀ m, ¬ w.Overtaken m)) := by
  obtain ⟨⟨ms, w⟩, hw, hp, hl⟩ : ∃ x, (empty.start plainSettings).replay
      (twoRead [123, 125] [123, 125] ++
        [.inr (.confirmer 0), .inl (.confirm ⟨2, true⟩), .inr (.confirmer 0)]) = some x ∧
      x.2.position ⟨"t", 0⟩ = some 2 ∧
      (x.2.sessions.any fun h => h.session.pending.length == 1) = true := ⟨_, rfl, rfl, rfl⟩
  obtain ⟨h, hm, he⟩ := List.any_eq_true.mp hl
  have hr := Reachable.start.replay hw
  exact ⟨w, hr, hp, ⟨h, hm, by simpa using he⟩, lost_iff_overtaken hr⟩

/-- **A run that loses a message.** Two messages are submitted, the second is delivered, and then
the first is not: the position stands behind both, and nobody waits for the first any more. -/
theorem undelivered_below_position : ∃ (settings : Settings) (w : Relay) (m : Message),
    Reachable settings w ∧ w.Below m ∧ ¬ w.Safe m ∧
    Fate.undelivered 0 m 1 ∈ w.books.history ∧ ∀ h ∈ w.sessions, h.session.pending = [] := by
  obtain ⟨⟨ms, w⟩, hw, hx⟩ : ∃ x, (empty.start plainSettings).replay
      (twoRead [123, 125] [123, 125] ++
        [.inr (.confirmer 0), .inl (.confirm ⟨2, true⟩), .inr (.confirmer 0),
          .inr (.confirmer 0), .inl (.confirm ⟨1, false⟩), .inr (.confirmer 0)]) = some x ∧
      x.2.position ⟨"t", 0⟩ = some 2 ∧
      x.2.broker.log ⟨"t", 0⟩ = [.plain "t" 0 0 [123, 125], .plain "t" 0 1 [123, 125]] ∧
      x.2.books.history = [
        .submitted 0 0 (.plain "t" 0 0 [123, 125]) 1 [Record.named "kafka_consumer"],
        .submitted 0 0 (.plain "t" 0 1 [123, 125]) 2 [Record.named "kafka_consumer"],
        .delivered 0 (.plain "t" 0 1 [123, 125]) 2,
        .undelivered 0 (.plain "t" 0 0 [123, 125]) 1] ∧
      x.2.books.sink.deliveries.items = [⟨2, true⟩, ⟨1, false⟩] ∧
      (x.2.sessions.map fun h => h.session.pending) = [[]] :=
    ⟨_, rfl, rfl, rfl, rfl, rfl, rfl⟩
  obtain ⟨hp, hlog, hh, hd, hs⟩ := hx
  refine ⟨plainSettings, w, .plain "t" 0 0 [123, 125], Reachable.start.replay hw,
    ⟨⟨"t", 0⟩, 0, by rw [hlog]; rfl, 2, hp, by decide⟩, ?_, by rw [hh]; simp, ?_⟩
  · rintro (⟨k, id, ⟨i, records, hm⟩, hc⟩ | ⟨k, i, hm⟩ | ⟨k, i, hm⟩)
    · rw [hh] at hm
      rw [Confirmed, hd] at hc
      have h2 : id = 2 := by simpa using hc
      simp [Message.plain, h2] at hm
    · rw [hh] at hm
      simp at hm
    · rw [hh] at hm
      simp at hm
  · intro h hm
    have := List.mem_map_of_mem (f := fun h => h.session.pending) hm
    rw [hs] at this
    exact List.mem_singleton.mp this

end Relay
end Sluice
