import Sluice.Proofs.Consume.Sagas
/-!
# Who hosts a session

A session that has been set up is hosted by the call that did so, for good, and a call that serves a
session hosts it. So what another call does is nothing to the session of this one: beside a call its
session only goes on, as sessions do while no call moves.

* `Ground.Turn`, `turn_of_performs`: what the moves of a call do to the sessions and calls.
* `Ground.Housed`: calls and the sessions that they host fit together. `Drifts.housed`, `Turn.housed`: as
  they go on.
* `Ground.Aside`: what may happen beside a call.
* `Acts.turns`: no call moves in a step, or one does. `Acts.cases`: a step is the call's own, or it
  happens beside it.
-/
namespace Sluice

/-- Whether a call has a session to look after. -/
def ConsumeCall.Phase.isBusy (p : ConsumeCall.Phase) : Bool :=
  p matches .serving | .leaving _ | .cleaning _

/-- A session as its host goes on with it: it keeps its host, is not set up anew, and stays told to
end. -/
structure Hosted.Tended (h h' : Hosted) : Prop where
  host : h'.host = h.host
  stage : h.session.stage ≠ .idle → h'.session.stage ≠ .idle
  cancelled : h.session.cancelled = true → h'.session.cancelled = true

namespace Ground
variable {G H : Ground} {c d k : Nat} {x : ConsumeCall} {h : Hosted}

/-! ## What a call does -/

/-- What the moves of call `c`, which is `x`, do to the sessions and calls. -/
inductive Turn (G : Ground) (c : Nat) (x : ConsumeCall) : Ground → Prop where
  /-- It ends without a session. -/
  | refuse {failure : Option RelayError} : x.phase = .fresh →
      Turn G c x (G.setCall c (.ended failure))
  /-- Its session is not set up. -/
  | unready {failure : Option RelayError} : x.phase = .fresh →
      Turn G c x (((G.enlist c).unlist c).setCall c (.ended failure))
  /-- It sets its session up. -/
  | host {h : Hosted} {f : Hosted → Hosted} : x.phase = .fresh → G.sessions[x.session]? = some h →
      h.session.stage = .idle → (f h).host = some c → (f h).session.stage ≠ .idle →
      Turn G c x (((G.enlist c).modify x.session f).setCall c .serving)
  /-- It tells its session to end. -/
  | leave {failure : Option RelayError} {f : Hosted → Hosted} : x.phase = .serving →
      (∀ h, G.sessions[x.session]? = some h → h.Tended (f h) ∧ (f h).session.cancelled = true) →
      Turn G c x ((G.modify x.session f).setCall c (.leaving failure))
  /-- It goes on with its session. -/
  | keep {f : Hosted → Hosted} {p : ConsumeCall.Phase} : x.phase.isBusy = true → p.isBusy = true →
      (p ≠ .serving → x.phase ≠ .serving) →
      (∀ h, G.sessions[x.session]? = some h → h.Tended (f h)) →
      Turn G c x ((G.modify x.session f).setCall c p)
  /-- It ends after its session. -/
  | finish {f : Hosted → Hosted} {failure : Option RelayError} : x.phase.isBusy = true →
      x.phase ≠ .serving → (∀ h, G.sessions[x.session]? = some h → h.Tended (f h)) →
      Turn G c x (((G.modify x.session f).unlist c).setCall c (.ended failure))

/-- Calls and the sessions that they host fit together. -/
structure Housed (G : Ground) : Prop where
  hosted : ∀ (k : Nat) (h : Hosted) (c : Nat), G.sessions[k]? = some h → h.host = some c →
    h.session.stage ≠ .idle ∧ ∃ x, G.calls[c]? = some x ∧ x.session = k ∧ x.phase ≠ .fresh
  unhosted : ∀ (k : Nat) (h : Hosted), G.sessions[k]? = some h → h.host = none → h.Unhosted
  busy : ∀ (c : Nat) (x : ConsumeCall), G.calls[c]? = some x → x.phase.isBusy = true →
    ∃ h, G.sessions[x.session]? = some h ∧ h.host = some c

/-- What may happen beside call `c`. If there is no such call, one may be added; if it hosts a session,
that goes on; and it comes to host none. -/
structure Aside (c : Nat) (G H : Ground) : Prop where
  call : H.calls[c]? = G.calls[c]? ∨
    G.calls[c]? = none ∧ ∃ x, H.calls[c]? = some x ∧ x.phase = .fresh
  session : ∀ (k : Nat) (h : Hosted), G.sessions[k]? = some h → h.host = some c →
    ∃ es h', H.sessions[k]? = some h' ∧ h.Onward es h'
  hosts : ∀ (k : Nat) (h' : Hosted), H.sessions[k]? = some h' → h'.host = some c →
    ∃ h, G.sessions[k]? = some h ∧ h.host = some c

theorem Drifts.aside (hd : G.Drifts H) (c : Nat) : G.Aside c H where
  call := hd.calls c
  session _ _ hk _ := hd.onward hk
  hosts k h' hk hc := by
    obtain ⟨h, -, hg, -, hgc⟩ := hd.of_host hk hc
    exact ⟨h, hg, hgc⟩

theorem Drifts.housed (hd : G.Drifts H) (hh : G.Housed) : H.Housed where
  hosted k h' c hk hc := by
    obtain ⟨h, es, hg, ho, hgc⟩ := hd.of_host hk hc
    obtain ⟨hs, x, hx, hxk, hp⟩ := hh.hosted k h c hg hgc
    refine ⟨ho.stage ▸ hs, x, ?_, hxk, hp⟩
    rcases hd.calls c with he | ⟨hn, -⟩
    · rw [he, hx]
    · rw [hx] at hn
      cases hn
  unhosted k h' hk hn := by
    rcases hd.session_cases hk with h | ⟨h, es, hg, ho⟩
    · exact h
    · exact ho.unhosted (hh.unhosted k h hg (ho.host.symm.trans hn))
  busy c x hx hb := by
    rcases hd.calls c with he | ⟨-, y, hy, hp⟩
    · obtain ⟨h, hk, hc⟩ := hh.busy c x (he ▸ hx) hb
      obtain ⟨es, h', hk', ho⟩ := hd.onward hk
      exact ⟨h', hk', ho.host.trans hc⟩
    · cases Option.some.inj (hx.symm.trans hy)
      simp [hp, ConsumeCall.Phase.isBusy] at hb

/-- Which tokens the broker keeps is none of it. -/
theorem Housed.relist {l : List Nat} (hh : G.Housed) : ({ G with listed := l } : Ground).Housed :=
  ⟨hh.hosted, hh.unhosted, hh.busy⟩

/-- A call takes over the session that is its own, or goes on with it. -/
theorem Housed.host {f : Hosted → Hosted} {p : ConsumeCall.Phase} (hh : G.Housed)
    (hx : G.calls[c]? = some x) (hk : G.sessions[x.session]? = some h)
    (hn : ∀ d, h.host = some d → d = c) (hf : (f h).host = some c)
    (hs : (f h).session.stage ≠ .idle) (hp : p ≠ .fresh) :
    ((G.modify x.session f).setCall c p).Housed where
  hosted k g d hg hd := by
    rcases session_modify_cases hk hg with ⟨rfl, rfl⟩ | ⟨hne, hg⟩
    · cases Option.some.inj (hf.symm.trans hd)
      exact ⟨hs, _, call_setCall hx, rfl, hp⟩
    · obtain ⟨hs, y, hy, hyk, hyp⟩ := hh.hosted k g d hg hd
      refine ⟨hs, y, (call_setCall_ne ?_).trans hy, hyk, hyp⟩
      rintro rfl
      cases Option.some.inj (hx.symm.trans hy)
      exact hne hyk.symm
  unhosted k g hg hgn := by
    rcases session_modify_cases hk hg with ⟨rfl, rfl⟩ | ⟨-, hg⟩
    · rw [hf] at hgn
      cases hgn
    · exact hh.unhosted k g hg hgn
  busy d y hy hb := by
    rcases call_setCall_cases hx hy with ⟨rfl, rfl⟩ | ⟨hd, hy⟩
    · exact ⟨_, session_modify hk, hf⟩
    · obtain ⟨g, hg, hgd⟩ := hh.busy d y hy hb
      refine ⟨g, (session_modify_ne fun he => ?_).trans hg, hgd⟩
      cases Option.some.inj (hk.symm.trans (he ▸ hg))
      exact hd (hn d hgd)

/-- A call goes on with its session. -/
theorem Housed.tend {f : Hosted → Hosted} {p : ConsumeCall.Phase} (hh : G.Housed)
    (hx : G.calls[c]? = some x) (hb : x.phase.isBusy = true)
    (hf : ∀ h, G.sessions[x.session]? = some h → h.Tended (f h)) (hp : p ≠ .fresh) :
    ((G.modify x.session f).setCall c p).Housed := by
  obtain ⟨h, hk, hc⟩ := hh.busy c x hx hb
  exact hh.host hx hk (fun d hd => Option.some.inj (hd.symm.trans hc)) ((hf h hk).host.trans hc)
    ((hf h hk).stage (hh.hosted _ h c hk hc).1) hp

/-- A call ends without a session. -/
theorem Housed.refuse {failure : Option RelayError} (hh : G.Housed) (hx : G.calls[c]? = some x)
    (hp : x.phase = .fresh) : (G.setCall c (.ended failure)).Housed := by
  refine ⟨fun k h d hk hd => ?_, hh.unhosted, fun d y hy hb => ?_⟩
  · obtain ⟨hs, y, hy, hyk, hyp⟩ := hh.hosted k h d hk hd
    refine ⟨hs, y, (call_setCall_ne ?_).trans hy, hyk, hyp⟩
    rintro rfl
    cases Option.some.inj (hx.symm.trans hy)
    exact hyp hp
  · rcases call_setCall_cases hx hy with ⟨rfl, rfl⟩ | ⟨-, hy⟩
    · cases hb
    · exact hh.busy d y hy hb

theorem Turn.housed (ht : G.Turn c x H) (hx : G.calls[c]? = some x) (hh : G.Housed) : H.Housed := by
  cases ht with
  | refuse hp => exact hh.refuse hx hp
  | unready hp => exact (hh.refuse hx hp).relist
  | @host h _ _ hk hi hc hs =>
    have hn : ∀ d, h.host = some d → d = c := fun d hd => absurd hi (hh.hosted _ h d hk hd).1
    exact (hh.host (p := .serving) hx hk hn hc hs nofun).relist
  | leave hp hf =>
    exact hh.tend hx (by simp [hp, ConsumeCall.Phase.isBusy]) (fun h hk => (hf h hk).1) nofun
  | keep hb hp _ hf => exact hh.tend hx hb hf (by rintro rfl; cases hp)
  | @finish _ failure hb _ hf => exact (hh.tend (p := .ended failure) hx hb hf nofun).relist

/-- The moves of another call happen beside this one. -/
theorem Turn.aside (ht : G.Turn d x H) (hd : d ≠ c) (hx : G.calls[d]? = some x) (hh : G.Housed) :
    G.Aside c H := by
  -- the session of the other call is not hosted by this one, neither before nor after its move
  have hmove : ∀ (f : Hosted → Hosted) (p : ConsumeCall.Phase) (l : List Nat) (h : Hosted),
      G.sessions[x.session]? = some h → h.host ≠ some c → (f h).host ≠ some c →
      G.Aside c { (G.modify x.session f).setCall d p with listed := l } := fun f p l h hk hn hf =>
    { call := .inl (call_setCall_ne hd)
      session := fun k y hy hc => by
        have hne : x.session ≠ k := by
          rintro rfl
          cases Option.some.inj (hk.symm.trans hy)
          exact hn hc
        exact ⟨_, y, (session_modify_ne hne).trans hy, .refl y⟩
      hosts := fun k y hy hc => by
        rcases session_modify_cases hk hy with ⟨rfl, rfl⟩ | ⟨-, hy⟩
        · exact absurd hc hf
        · exact ⟨y, hy, hc⟩ }
  have htend : ∀ (f : Hosted → Hosted) (p : ConsumeCall.Phase) (l : List Nat),
      x.phase.isBusy = true → (∀ h, G.sessions[x.session]? = some h → h.Tended (f h)) →
      G.Aside c { (G.modify x.session f).setCall d p with listed := l } := fun f p l hb hf => by
    obtain ⟨h, hk, hc⟩ := hh.busy d x hx hb
    have hn : h.host ≠ some c := fun hn => hd (Option.some.inj (hc.symm.trans hn))
    exact hmove f p l h hk hn ((hf h hk).host ▸ hn)
  cases ht with
  | refuse | unready =>
    exact ⟨.inl (call_setCall_ne hd), fun k h hk _ => ⟨_, h, hk, .refl h⟩, fun k h hk hc => ⟨h, hk, hc⟩⟩
  | @host h _ _ hk hi hc =>
    refine hmove _ _ _ h hk (fun hn => (hh.hosted _ h c hk hn).1 hi) fun hn => hd ?_
    exact Option.some.inj (hc.symm.trans hn)
  | leave hp hf =>
    exact htend _ _ _ (by simp [hp, ConsumeCall.Phase.isBusy]) fun h hk => (hf h hk).1
  | keep hb _ _ hf | finish hb _ hf => exact htend _ _ _ hb hf

end Ground

namespace Relay
variable {w v : Relay} {c : Nat} {x : ConsumeCall} {ds : List Deed}

theorem turn_of_answers (hm : w.Answers c x ds v) : w.ground.Turn c x v.ground := by
  have hsame : ∀ p, (w.ground.unlist c).setCall c p =
      ((w.ground.modify x.session id).unlist c).setCall c p := fun p => by
    rw [Ground.modify_same (f := id) fun _ _ => rfl]
  cases hm with
  | unready _ hp => exact .unready hp
  | giveUp _ hp | abandon _ hp =>
    refine (congrArg (w.ground.Turn c x) (hsame _)).mpr ?_
    exact .finish (by simp [hp, ConsumeCall.Phase.isBusy]) (by simp [hp]) fun _ _ => ⟨rfl, id, id⟩

theorem turn_of_performs (hx : w.calls[c]? = some x) (hm : w.Performs c x ds v) :
    w.ground.Turn c x v.ground := by
  cases hm with
  | refuse hp => exact .refuse hp
  | fail _ hp => exact .refuse hp
  | begin hp _ _ hk hi =>
    rw [ground_served]
    exact .host hp hk hi rfl nofun
  | close hp | cancel hp =>
    rw [ground_leaveCall]
    exact .leave hp fun _ _ => ⟨⟨rfl, id, fun _ => rfl⟩, rfl⟩
  | look hp =>
    rw [ground_modifyHosted, ← Ground.setCall_same (G := w.ground.modify x.session _) hx, hp]
    exact .keep (by simp [hp, ConsumeCall.Phase.isBusy]) rfl (fun hn => absurd rfl hn)
      fun _ _ => ⟨rfl, id, id⟩
  | abort hp =>
    rw [ground_abort]
    exact .leave hp fun _ _ => ⟨⟨rfl, id, fun _ => rfl⟩, rfl⟩
  | @drain h _ hp hk =>
    refine .keep (by simp [hp, ConsumeCall.Phase.isBusy]) rfl (by simp [hp]) fun g hg => ?_
    cases Option.some.inj (hk.symm.trans hg)
    exact ⟨rfl, nofun, id⟩
  | @finish h _ hp hk =>
    refine .finish (by simp [hp, ConsumeCall.Phase.isBusy]) (by simp [hp]) fun g hg => ?_
    cases Option.some.inj (hk.symm.trans hg)
    exact ⟨rfl, nofun, id⟩
  | answers ha => exact turn_of_answers ha

/-- What happens beside a call is none of its deeds. -/
theorem deeds_of_aside (ha : w.ground.Aside c v.ground) : deeds c w v = [] := by
  have hcall : v.calls[c]? = w.calls[c]? ∨
    w.calls[c]? = none ∧ ∃ x, v.calls[c]? = some x ∧ x.phase = .fresh := ha.call
  unfold deeds
  rcases hcall with he | ⟨hn, -⟩
  · rw [he]
    cases w.calls[c]? with
    | none => rfl
    | some x => cases hp : x.phase <;> simp only [hp]
  · rw [hn]

/-- A claim may end as its handler likes. -/
theorem drifts_of_settle {k i : Nat} {h : Hosted} {y : Claim} (failure : Option RelayError)
    (hk : w.sessions[k]? = some h) (hy : h.session.claims[i]? = some y) (hn : y.result? = none) :
    w.ground.Drifts (w.settleMove k (h.session.finish i failure, w.books, [.ended i])).ground :=
  drifts_settleMove hk (Hosted.onward_of_works (.of_modify hy hn ⟨rfl, rfl, rfl, rfl⟩ rfl rfl))

/-- No call moves in a step, or one does. -/
theorem Acts.turns (ha : Acts c w ds v) : w.ground.Drifts v.ground ∨
    ∃ d x, w.calls[d]? = some x ∧ w.ground.Turn d x v.ground := by
  cases ha with
  | use u => exact .inl (drifts_of_use w u)
  | @task t _ hs =>
    cases ht : w.callOf t with
    | none => exact .inl (drifts_of_step hs ht)
    | some d =>
      obtain ⟨x, hx, hm⟩ := performs_of_step (step_of_callOf hs ht)
      exact .inr ⟨d, x, hx, turn_of_performs hx hm⟩
  | settle failure hk hy hn => exact .inl (drifts_of_settle failure hk hy hn)
  | own hx hm | other _ hx hm => exact .inr ⟨_, _, hx, turn_of_answers hm⟩

theorem Acts.housed (ha : Acts c w ds v) (hh : w.ground.Housed) : v.ground.Housed := by
  rcases ha.turns with hd | ⟨d, x, hx, ht⟩
  · exact hd.housed hh
  · exact ht.housed hx hh

/-- A step is one of call `c`, or it happens beside it. -/
theorem Acts.cases (ha : Acts c w ds v) (hh : w.ground.Housed) :
    ds = [] ∧ w.ground.Aside c v.ground ∨ ∃ x, w.calls[c]? = some x ∧ w.Performs c x ds v := by
  cases ha with
  | use u => exact .inl ⟨rfl, (drifts_of_use w u).aside c⟩
  | @task t _ hs =>
    cases ht : w.callOf t with
    | none =>
      have haside := (drifts_of_step hs ht).aside c
      exact .inl ⟨deeds_of_aside haside, haside⟩
    | some d =>
      obtain ⟨x, hx, hm⟩ := performs_of_step (step_of_callOf hs ht)
      by_cases hd : d = c
      · subst hd
        exact .inr ⟨x, hx, hm⟩
      · have haside := (turn_of_performs hx hm).aside hd hx hh
        exact .inl ⟨deeds_of_aside haside, haside⟩
  | settle failure hk hy hn => exact .inl ⟨rfl, (drifts_of_settle failure hk hy hn).aside c⟩
  | own hx hm => exact .inr ⟨_, hx, .answers hm⟩
  | other hd hx hm => exact .inl ⟨rfl, (turn_of_answers hm).aside hd hx hh⟩

end Relay
end Sluice
