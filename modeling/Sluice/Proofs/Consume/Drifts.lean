import Sluice.Proofs.Consume.Crews
/-!
# Who is no host

Sessions and calls while no call moves: every session goes on, as its own tasks and its feeders make it,
or is told to end, and sessions and calls may be added. `Ground.Drifts` says so of the ground of two
relays, and nobody but calls does more.

* `drifts_of_event`, `drifts_of_use`: what happens from outside.
* `drifts_of_session`, `drifts_of_feeder`, `drifts_of_loop`: task by task.
* `drifts_of_step`: a task that moves no call. `step_of_callOf`: all others move a call.
-/
namespace Sluice

/-- What may become of an entry of the sessions while no call moves: a session goes on, or one is added
that nobody hosts. -/
inductive Hosted.Passes : Option Hosted → Option Hosted → Prop where
  | absent : Passes none none
  | added {h : Hosted} : h.Unhosted → Passes none (some h)
  | onward {h h' : Hosted} {es : List Ending} : h.Onward es h' → Passes (some h) (some h')

theorem Hosted.Passes.refl : ∀ o : Option Hosted, Passes o o
  | none => .absent
  | some h => .onward (.refl h)

/-- What may become of sessions and calls while no call moves. Calls stay, or one is added that has not
begun. The broker keeps the tokens that it keeps, or it keeps none and their sessions have been told to
end. -/
structure Ground.Drifts (G H : Ground) : Prop where
  sessions : ∀ k : Nat, Hosted.Passes G.sessions[k]? H.sessions[k]?
  calls : ∀ c : Nat, H.calls[c]? = G.calls[c]? ∨
    G.calls[c]? = none ∧ ∃ x, H.calls[c]? = some x ∧ x.phase = .fresh
  listed : H.listed = G.listed ∨ H.listed = [] ∧ ∀ k ∈ G.recalled, ∀ h, H.sessions[k]? = some h →
    h.session.cancelled = true

namespace Ground
variable {G H : Ground} {k : Nat}

/-- A session that was there goes on. -/
theorem Drifts.onward {h : Hosted} (hd : G.Drifts H) (hk : G.sessions[k]? = some h) :
    ∃ es h', H.sessions[k]? = some h' ∧ h.Onward es h' := by
  have hp := hd.sessions k
  rw [hk] at hp
  generalize H.sessions[k]? = o at hp
  cases hp with
  | onward h => exact ⟨_, _, rfl, h⟩

/-- A session that is there nobody hosts, or it has gone on. -/
theorem Drifts.session_cases {h' : Hosted} (hd : G.Drifts H) (hk : H.sessions[k]? = some h') :
    h'.Unhosted ∨ ∃ h es, G.sessions[k]? = some h ∧ h.Onward es h' := by
  have hp := hd.sessions k
  rw [hk] at hp
  generalize G.sessions[k]? = o at hp
  cases hp with
  | added h => exact .inl h
  | onward h => exact .inr ⟨_, _, rfl, h⟩

/-- A session that has a host has gone on. -/
theorem Drifts.of_host {h' : Hosted} {c : Nat} (hd : G.Drifts H) (hk : H.sessions[k]? = some h')
    (hc : h'.host = some c) : ∃ h es, G.sessions[k]? = some h ∧ h.Onward es h' ∧ h.host = some c := by
  rcases hd.session_cases hk with hn | ⟨h, es, hg, ho⟩
  · rw [hn.host] at hc
    cases hc
  · exact ⟨h, es, hg, ho, ho.host.symm.trans hc⟩

theorem drifts_of_same (hs : H.sessions = G.sessions) (hc : H.calls = G.calls)
    (hl : H.listed = G.listed) : G.Drifts H :=
  ⟨fun k => hs ▸ .refl _, fun _ => .inl (by rw [hc]), .inl hl⟩

theorem drifts_dismiss (G : Ground) (which : Nat → Bool) : G.Drifts (G.dismiss which) := by
  refine ⟨fun k => ?_, fun _ => .inl rfl, .inl rfl⟩
  simp only [dismiss, List.getElem?_mapIdx]
  cases G.sessions[k]? with
  | none => exact .absent
  | some h =>
    by_cases hk : which k = true
    · simpa [hk] using .onward (.dismiss h)
    · simpa [hk] using .refl (some h)

/-- The sessions whose tokens the broker keeps are told to end. -/
theorem drifts_rebalance (G : Ground) : G.Drifts G.rebalance := by
  have hd := drifts_dismiss G fun k => G.recalled.contains k
  refine ⟨hd.sessions, hd.calls, .inr ⟨rfl, fun k hk h hh => ?_⟩⟩
  simp only [rebalance, dismiss, List.getElem?_mapIdx] at hh
  obtain ⟨g, -, rfl⟩ := Option.map_eq_some_iff.mp hh
  rw [if_pos (List.contains_iff_mem.mpr hk)]
  rfl

/-- One session goes on. -/
theorem drifts_modify {f : Hosted → Hosted}
    (hf : ∀ h, G.sessions[k]? = some h → ∃ es, h.Onward es (f h)) : G.Drifts (G.modify k f) := by
  refine ⟨fun j => ?_, fun _ => .inl rfl, .inl rfl⟩
  simp only [modify, List.getElem?_modify]
  by_cases hj : k = j
  · subst hj
    cases hk : G.sessions[k]? with
    | none => exact .absent
    | some h =>
      obtain ⟨es, ho⟩ := hf h hk
      simpa using .onward ho
  · simpa [hj] using .refl _

/-- A session that nobody hosts is added, and a call that has not begun. -/
theorem drifts_concat {l : List Hosted} {r : List ConsumeCall} (hl : ∀ h ∈ l, h.Unhosted)
    (hr : ∀ x ∈ r, x.phase = .fresh) :
    G.Drifts { G with sessions := G.sessions ++ l, calls := G.calls ++ r } := by
  refine ⟨fun k => ?_, fun c => ?_, .inl rfl⟩
  · rw [List.getElem?_append]
    split
    · exact .refl _
    · next hk =>
      rw [List.getElem?_eq_none (Nat.le_of_not_lt hk)]
      cases hg : l[k - G.sessions.length]? with
      | none => exact .absent
      | some h => exact .added (hl h (List.mem_of_getElem? hg))
  · simp only [List.getElem?_append]
    split
    · exact .inl rfl
    · next hc =>
      rw [List.getElem?_eq_none (Nat.le_of_not_lt hc)]
      cases hg : r[c - G.calls.length]? with
      | none => exact .inl rfl
      | some x => exact .inr ⟨rfl, x, rfl, hr x (List.mem_of_getElem? hg)⟩

end Ground

namespace Relay
variable {w v : Relay} {k i : Nat} {h : Hosted}

theorem drifts_of_ground (hg : v.ground = w.ground) : w.ground.Drifts v.ground :=
  Ground.drifts_of_same (congrArg Ground.sessions hg) (congrArg Ground.calls hg)
    (congrArg Ground.listed hg)

theorem drifts_of_event (w : Relay) (e : Event) : w.ground.Drifts (w.apply e).ground := by
  rcases ground_of_event w e with ⟨which, hg⟩ | hg
  · exact hg ▸ Ground.drifts_dismiss _ which
  · exact hg ▸ Ground.drifts_rebalance _

theorem drifts_of_use (w : Relay) (u : Use) : w.ground.Drifts (w.use u).ground := by
  cases u with
  | event e => exact drifts_of_event w e
  | join => exact drifts_of_ground rfl
  | leave g => exact drifts_of_ground (ground_leaveGroup w g)
  | session settings =>
    unfold use
    dsimp only
    split
    · have hd := Ground.drifts_concat (G := w.ground) (r := [])
        (l := [⟨settings.rules, .ofCapacity settings.maxUndelivered, [], [], rootToken, none⟩])
        (fun h hh => by cases List.mem_singleton.mp hh; exact ⟨rfl, rfl, rfl⟩) (by simp)
      exact ⟨hd.sessions, fun _ => .inl rfl, .inl rfl⟩
    · exact drifts_of_ground rfl
  | consume g k topics token =>
    have hd := Ground.drifts_concat (G := w.ground) (l := []) (r := [⟨g, k, topics, token, .fresh⟩])
      (by simp) (by simp)
    exact ⟨fun k => .refl _, hd.calls, .inl rfl⟩
  | cancel token =>
    obtain ⟨which, hg⟩ := ground_cancel w token
    exact hg ▸ Ground.drifts_dismiss _ which

/-- A claim or the confirmer of a session moves, or a claim ends by itself. -/
theorem drifts_settleMove {s : Session} {b : Books} {xs : List Session.Signal}
    (hk : w.sessions[k]? = some h)
    (ho : ∃ es, h.Onward es { h with session := s, ended := h.ended ++ Session.endedBy xs }) :
    w.ground.Drifts (w.settleMove k (s, b, xs)).ground := by
  have hd := Ground.drifts_modify (G := w.ground) (k := k)
    (f := fun h => { h with session := s, ended := h.ended ++ Session.endedBy xs }) fun x hx => by
      cases Option.some.inj (hk.symm.trans hx)
      exact ho
  rw [ground_settleMove]
  exact ⟨hd.sessions, hd.calls, hd.listed⟩

theorem drifts_of_session {t : Session.Task} (ht : t ≠ .cleaner) (hs : w.stepSession k t = some v) :
    w.ground.Drifts v.ground := by
  unfold stepSession at hs
  split at hs
  · cases hs
  · next h hk =>
    obtain ⟨⟨s, b, xs⟩, hm, rfl⟩ := Option.map_eq_some_iff.mp hs
    refine drifts_settleMove hk ?_
    cases t with
    | claim i => exact Hosted.onward_of_works (Session.works_of_claim hm)
    | confirmer =>
      obtain ⟨hcl, hst, hca, hco, hx⟩ := Session.crew_of_confirmer hm
      exact ⟨_, Hosted.onward_of_confirmer hcl hst hca hco hx⟩
    | cleaner => exact absurd rfl ht

theorem drifts_of_feeder {f : Feeder} {c : Claim} (hk : w.sessions[k]? = some h)
    (hf : h.feeders[i]? = some f) (hm : w.FeederMove k i h f c v) : w.ground.Drifts v.ground := by
  have hpush : ∀ (x : Item) (c : Claim), (c.push x).source = c.source ∧ (c.push x).result? = c.result? :=
    fun _ _ => ⟨rfl, rfl⟩
  -- a feeder that moves ends, or it goes on
  have hend : ∀ g : Claim → Claim, f.phase ≠ .ended →
      (∀ c, (g c).source = c.source ∧ (g c).result? = c.result?) →
      w.ground.Drifts (w.ground.modify k fun h => { h with
        feeders := h.feeders.modify i fun f => { f with phase := .ended }
        session := h.session.modify i g }) := fun g hp hg =>
    Ground.drifts_modify fun x hx => by
      cases Option.some.inj (hk.symm.trans hx)
      exact Hosted.onward_of_feeder_end hf hp hg
  have hgo : ∀ (g : Feeder → Feeder) (e : Claim → Claim), f.phase ≠ .ended →
      (∀ f, (g f).source = f.source ∧ (g f).phase ≠ .ended) →
      (∀ c, (e c).source = c.source ∧ (e c).result? = c.result?) →
      w.ground.Drifts (w.ground.modify k fun h => { h with
        feeders := h.feeders.modify i g, session := h.session.modify i e }) := fun g e hp hg he =>
    Ground.drifts_modify fun x hx => by
      cases Option.some.inj (hk.symm.trans hx)
      refine ⟨_, Hosted.onward_of_feeding (fun f => (hg f).1) he fun y hy => ?_⟩
      cases Option.some.inj (hf.symm.trans hy)
      rw [Feeder.result?, Feeder.result?, if_neg (hg f).2, if_neg hp]
  have hturn : ∀ g : Feeder → Feeder, f.phase ≠ .ended →
      (∀ f, (g f).source = f.source ∧ (g f).phase ≠ .ended) →
      w.ground.Drifts (w.ground.modify k fun h => { h with feeders := h.feeders.modify i g }) :=
    fun g hp hg => by
      have := hgo g id hp hg fun _ => ⟨rfl, rfl⟩
      simpa only [Session.modify, List.modify_id] using this
  cases hm with
  | fail hp =>
    rw [ground_endFeeder, ground_feed, Ground.modify_modify]
    have := hend (fun c => { c.push (.failure (.consume "injected claim error")) with isOpen := false })
      (by simp [hp]) fun _ => ⟨rfl, rfl⟩
    simp only [Session.modify, List.modify_modify_eq] at this ⊢
    exact this
  | begin hp =>
    exact hturn (fun f => { f with phase := .feeding, first := _, next := _ }) (by simp [hp])
      fun _ => ⟨rfl, by simp⟩
  | stop _ hp | desert _ hp =>
    rw [ground_endFeeder]
    exact hend _ hp fun _ => ⟨rfl, rfl⟩
  | park _ hp => exact hturn (fun f => { f with phase := .parked }) hp fun _ => ⟨rfl, by simp⟩
  | block _ hp => exact hturn (fun f => { f with phase := .blocked }) hp fun _ => ⟨rfl, by simp⟩
  | @put m _ hp =>
    have := hgo (fun f => { f with next := f.next + 1, phase := .feeding })
      (fun c => c.push (.message m)) hp (fun _ => ⟨rfl, by simp⟩) fun _ => ⟨rfl, rfl⟩
    rw [ground_feed]
    exact (Ground.modify_modify w.ground k _ _).symm ▸ this

/-- The consume loop moves, but not the call that it runs. -/
theorem drifts_of_loop {s : Supervisor} (hm : w.LoopMove s v)
    (hn : ∀ c n x, s.loop = .serving c n → w.calls[c]? = some x → ∃ e, x.phase = .ended e) :
    w.ground.Drifts v.ground := by
  have hset : ∀ {u : Relay} {p : Supervisor.Loop}, u.ground = w.ground.setLoop p →
      w.ground.Drifts u.ground := fun hu => hu ▸ Ground.drifts_of_same rfl rfl rfl
  cases hm with
  | stop => exact hset (ground_endLoop w s)
  | join _ _ _ hr =>
    have hg := ground_refresh w s
    rw [hr] at hg
    exact drifts_of_ground hg
  | @joinFails e u _ _ _ hr =>
    have hg := ground_refresh w s
    rw [hr] at hg
    have hd := drifts_of_ground hg
    rw [ground_retry]
    exact ⟨hd.sessions, hd.calls, hd.listed⟩
  | idle => exact hset (ground_pause w s)
  | @serve g =>
    rcases ground_serve w s g with hg | hg
    · exact hset hg
    · rw [hg]
      have hd := Ground.drifts_concat (G := w.ground)
        (l := [⟨s.settings.rules, .ofCapacity s.settings.maxUndelivered, [], [], rootToken, none⟩])
        (r := [⟨g, w.sessions.length, s.topics, rootToken, .fresh⟩])
        (fun h hh => by cases List.mem_singleton.mp hh; exact ⟨rfl, rfl, rfl⟩) (by simp)
      exact ⟨hd.sessions, hd.calls, hd.listed⟩
  | resume => exact hset (ground_setLoop (w.clearTimer .loop) .top)
  | call hl hx hm =>
    obtain ⟨e, he⟩ := hn _ _ _ hl hx
    exact absurd he (hm.unended e)
  | finish => exact hset (ground_setLoop w .top)
  | retry =>
    rw [ground_retry]
    exact Ground.drifts_of_same rfl rfl rfl

/-- The call that the next move of a task is a move of: its own, or the one that the consume loop runs
and that has not ended. -/
def callOf (w : Relay) : Task → Option Nat
  | .consume c => some c
  | .loop => w.loopCall.filter fun c => !(w.calls[c]?.map ConsumeCall.phase matches some (.ended _))
  | _ => none

/-- A task moves, but no call does. -/
theorem drifts_of_step {t : Task} (hs : w.step t = some v) (hn : w.callOf t = none) :
    w.ground.Drifts v.ground := by
  cases move_of_step hs with
  | claim hs => exact drifts_of_session (t := .claim _) nofun hs
  | confirmer hs => exact drifts_of_session (t := .confirmer) nofun hs
  | feeder hk hf _ hm | straggler hk hf _ hm => exact drifts_of_feeder hk hf hm
  | call => cases hn
  | loop hw hm =>
    refine drifts_of_loop hm fun c n x hl hx => ?_
    simp only [callOf, loopCall, hw, hl, Option.map_some] at hn
    rw [Option.filter_some, hx] at hn
    cases hp : x.phase with
    | ended e => exact ⟨e, rfl⟩
    | _ => simp [hp] at hn
  | forwarder _ hm => exact drifts_of_ground (ground_of_forwarder hm)
  | refresher _ hm => exact drifts_of_ground (ground_of_refresher hm)
  | caller _ hm =>
    obtain ⟨which, hg⟩ := ground_of_caller hm
    exact hg ▸ Ground.drifts_dismiss _ which

/-- A task moves a call. -/
theorem step_of_callOf {t : Task} {c : Nat} (hs : w.step t = some v) (hc : w.callOf t = some c) :
    w.stepConsume c = some v := by
  cases t with
  | consume d =>
    cases hc
    simp only [step] at hs
    split at hs
    · cases hs
    · exact hs
  | loop =>
    obtain ⟨hl, hp⟩ := Option.filter_eq_some_iff.mp hc
    cases hw : w.supervisor with
    | none => simp [loopCall, hw] at hl
    | some s =>
      simp only [step, hw] at hs
      unfold loopCall at hl
      rw [hw] at hl
      simp only [Option.map_some] at hl
      split at hl
      · next d n hsl =>
        cases hl
        unfold stepLoop at hs
        rw [Option.some.inj hsl] at hs
        dsimp only at hs
        split at hs
        · next he => simp [he] at hp
        · next e he => simp [he] at hp
        · exact hs
      · cases hl
  | _ => cases hc

end Relay
end Sluice
