import Sluice.Proofs.Consume.Hosts
import Sluice.Proofs.Relay.Runs
/-!
# The tokens that the broker keeps

A rebalance ends the sessions whose tokens the broker keeps. A call gives it a token before it has its
session set up, and when the call returns the broker lets go of all tokens that have been cancelled.
So at every moment the broker keeps the token of every session that has not been told to end, and none
of a call that has returned: a rebalance misses nobody, and reaches nobody but sessions with a host.

* `Ground.Enlisted`: the list fits the sessions and calls. `Drifts.enlisted`, `Turn.enlisted`: as they
  go on.
* `Saga.enlisted`, `Reachable.enlisted`: it always does.
* `Enlisted.returned`: a call that has returned is off the list.
* `Reachable.rebalance_ends`: whom a rebalance ends.
-/
namespace Sluice
namespace Ground
variable {G H : Ground} {c d k : Nat} {x y : ConsumeCall} {h : Hosted}

/-- The broker keeps tokens of calls with sessions to look after, and the token of every session that
has a host and has not been told to end. A call that does not serve its session any more has told it. -/
structure Enlisted (G : Ground) : Prop extends G.Housed where
  listed : ∀ c ∈ G.listed, ∃ x, G.calls[c]? = some x ∧ x.phase.isBusy = true
  served : ∀ (k : Nat) (h : Hosted) (c : Nat), G.sessions[k]? = some h → h.host = some c →
    h.session.cancelled = false → c ∈ G.listed
  told : ∀ (c : Nat) (x : ConsumeCall) (h : Hosted), G.calls[c]? = some x → x.phase.isBusy = true →
    x.phase ≠ .serving → G.sessions[x.session]? = some h → h.session.cancelled = true

/-! ## The list -/

/-- The broker lets go of this token and of those that have been cancelled. -/
theorem mem_unlist : d ∈ (G.unlist c).listed ↔ d ∈ G.listed ∧ d ≠ c ∧
    ∀ x, G.calls[d]? = some x → ∀ h, G.sessions[x.session]? = some h →
      h.session.cancelled = false := by
  cases hx : G.calls[d]? with
  | none => simp [unlist, hx]
  | some x =>
    cases hk : G.sessions[x.session]? with
    | none => simp [unlist, hx, hk]
    | some h => simp [unlist, hx, hk]

theorem mem_recalled : k ∈ G.recalled ↔ ∃ c x, c ∈ G.listed ∧ G.calls[c]? = some x ∧ x.session = k := by
  simp only [recalled, List.mem_filterMap, Option.map_eq_some_iff]
  exact ⟨fun ⟨c, hc, x, hx, hk⟩ => ⟨c, x, hc, hx, hk⟩, fun ⟨c, x, hc, hx, hk⟩ => ⟨c, hc, x, hx, hk⟩⟩

/-- The broker keeps the token of every session that has a host and has not been told to end. -/
theorem Enlisted.recalled_of_served (he : G.Enlisted) (hk : G.sessions[k]? = some h)
    (hc : h.host = some c) (hn : h.session.cancelled = false) : k ∈ G.recalled := by
  obtain ⟨-, x, hx, hxk, -⟩ := he.hosted k h c hk hc
  exact mem_recalled.mpr ⟨c, x, he.served k h c hk hc hn, hx, hxk⟩

/-- A session whose token the broker keeps has a host. -/
theorem Enlisted.hosted_of_recalled (he : G.Enlisted) (hr : k ∈ G.recalled)
    (hk : G.sessions[k]? = some h) : h.host.isSome = true := by
  obtain ⟨c, x, hl, hx, rfl⟩ := mem_recalled.mp hr
  obtain ⟨y, hy, hb⟩ := he.listed c hl
  cases Option.some.inj (hx.symm.trans hy)
  obtain ⟨g, hg, hc⟩ := he.busy c x hx hb
  cases Option.some.inj (hk.symm.trans hg)
  rw [hc]
  rfl

/-- The broker does not keep the token of a call that has returned. -/
theorem Enlisted.returned {failure : Option RelayError} (he : G.Enlisted) (hx : G.calls[c]? = some x)
    (hp : x.phase = .ended failure) : c ∉ G.listed := fun hl => by
  obtain ⟨y, hy, hb⟩ := he.listed c hl
  cases Option.some.inj (hx.symm.trans hy)
  rw [hp] at hb
  cases hb

/-- All sessions that have a host are told to end, and no token is kept. -/
theorem Enlisted.rebalance (he : G.Enlisted) : G.rebalance =
    { G with sessions := G.sessions.map fun h => if h.host.isSome then h.dismiss else h, listed := [] } := by
  simp only [Ground.rebalance, dismiss, mk.injEq, and_true]
  refine List.ext_getElem? fun k => ?_
  rw [List.getElem?_mapIdx, List.getElem?_map]
  cases hk : G.sessions[k]? with
  | none => rfl
  | some h =>
    simp only [Option.map_some, Option.some.injEq, List.contains_iff_mem]
    by_cases hr : k ∈ G.recalled
    · rw [if_pos hr, if_pos (he.hosted_of_recalled hr hk)]
    · rw [if_neg hr]
      split
      · next hh =>
        obtain ⟨c, hc⟩ := Option.isSome_iff_exists.mp hh
        cases hn : h.session.cancelled with
        | true => exact (Hosted.dismiss_eq_self hn).symm
        | false => exact absurd (he.recalled_of_served hk hc hn) hr
      · rfl

/-! ## As they go on -/

theorem Drifts.enlisted (hd : G.Drifts H) (he : G.Enlisted) : H.Enlisted where
  toHoused := hd.housed he.toHoused
  listed c hc := by
    rcases hd.listed with hl | ⟨hl, -⟩
    · obtain ⟨x, hx, hb⟩ := he.listed c (hl ▸ hc)
      rcases hd.calls c with hsame | ⟨hn, -⟩
      · exact ⟨x, hsame.trans hx, hb⟩
      · cases hx.symm.trans hn
    · rw [hl] at hc
      cases hc
  served k h' c hk hc hn := by
    obtain ⟨h, es, hg, ho, hgc⟩ := hd.of_host hk hc
    have hgn : h.session.cancelled = false := Bool.eq_false_iff.mpr fun ht => by
      simp [ho.cancelled ht] at hn
    rcases hd.listed with hl | ⟨-, hall⟩
    · exact hl ▸ he.served k h c hg hgc hgn
    · -- the broker has let go of all tokens, but not without telling this session to end
      have := hall k (he.recalled_of_served hg hgc hgn) h' hk
      rw [hn] at this
      cases this
  told c x h' hx hb hp hk := by
    rcases hd.calls c with hsame | ⟨-, y, hy, hf⟩
    · rw [hsame] at hx
      obtain ⟨h, hg, -⟩ := he.busy c x hx hb
      obtain ⟨es, h1, hk1, ho⟩ := hd.onward hg
      cases Option.some.inj (hk.symm.trans hk1)
      exact ho.cancelled (he.told c x h hx hb hp hg)
    · cases Option.some.inj (hx.symm.trans hy)
      simp [hf, ConsumeCall.Phase.isBusy] at hb

/-- A call ends without a session, and the broker keeps the tokens that it keeps, or lets go of some
whose sessions have been told to end. -/
theorem Enlisted.refuse {failure : Option RelayError} {l : List Nat} (he : G.Enlisted)
    (hx : G.calls[c]? = some x) (hp : x.phase = .fresh) (hl : ∀ d ∈ l, d ∈ G.listed)
    (hk : ∀ d ∈ G.listed, d ≠ c →
      (∀ y, G.calls[d]? = some y → ∀ h, G.sessions[y.session]? = some h →
        h.session.cancelled = false) → d ∈ l) :
    ({ G.setCall c (.ended failure) with listed := l } : Ground).Enlisted where
  toHoused := (he.toHoused.refuse hx hp).relist
  listed d hd := by
    obtain ⟨y, hy, hb⟩ := he.listed d (hl d hd)
    refine ⟨y, (call_setCall_ne ?_).trans hy, hb⟩
    rintro rfl
    cases Option.some.inj (hx.symm.trans hy)
    simp [hp, ConsumeCall.Phase.isBusy] at hb
  served k h d hd hc hn := by
    obtain ⟨-, y, hy, rfl, hf⟩ := he.hosted k h d hd hc
    refine hk d (he.served _ h d hd hc hn) ?_ fun z hz g hg => ?_
    · rintro rfl
      cases Option.some.inj (hx.symm.trans hy)
      exact hf hp
    · cases Option.some.inj (hy.symm.trans hz)
      cases Option.some.inj (hd.symm.trans hg)
      exact hn
  told d y h hy hb := by
    rcases call_setCall_cases hx hy with ⟨rfl, rfl⟩ | ⟨-, hy⟩
    · cases hb
    · exact he.told d y h hy hb

/-- A call goes on with its session, or takes over one that nobody hosts. The broker keeps the token of
the call as long as the session has not been told to end, and those of the others. -/
theorem Enlisted.next {f : Hosted → Hosted} {p : ConsumeCall.Phase} {l : List Nat} (he : G.Enlisted)
    (hH : ({ (G.modify x.session f).setCall c p with listed := l } : Ground).Housed)
    (hx : G.calls[c]? = some x) (hk : G.sessions[x.session]? = some h)
    (hn : ∀ d, h.host = some d → d = c) (hf : (f h).host = some c)
    (hl : ∀ d ∈ l, d = c ∧ p.isBusy = true ∨ d ≠ c ∧ d ∈ G.listed)
    (hown : (f h).session.cancelled = false → c ∈ l)
    (hrest : ∀ d ∈ G.listed, d ≠ c → (∀ y, G.calls[d]? = some y → ∀ g,
      (G.modify x.session f).sessions[y.session]? = some g → g.session.cancelled = false) → d ∈ l)
    (htold : p.isBusy = true → p ≠ .serving → (f h).session.cancelled = true) :
    ({ (G.modify x.session f).setCall c p with listed := l } : Ground).Enlisted where
  toHoused := hH
  listed d hd := by
    rcases hl d hd with ⟨rfl, hb⟩ | ⟨hne, hd⟩
    · exact ⟨_, call_setCall hx, hb⟩
    · obtain ⟨y, hy, hb⟩ := he.listed d hd
      exact ⟨y, (call_setCall_ne hne.symm).trans hy, hb⟩
  served k g d hg hd hc := by
    rcases session_modify_cases hk hg with ⟨rfl, rfl⟩ | ⟨hne, hold⟩
    · cases Option.some.inj (hf.symm.trans hd)
      exact hown hc
    · obtain ⟨-, y, hy, rfl, -⟩ := he.hosted k g d hold hd
      refine hrest d (he.served _ g d hold hd hc) ?_ fun z hz g' hz' => ?_
      · rintro rfl
        cases Option.some.inj (hx.symm.trans hy)
        exact hne rfl
      · cases Option.some.inj (hy.symm.trans hz)
        cases Option.some.inj (hg.symm.trans hz')
        exact hc
  told d y g hy hb hp hg := by
    rcases call_setCall_cases hx hy with ⟨rfl, rfl⟩ | ⟨hd, hy⟩
    · cases Option.some.inj ((session_modify hk).symm.trans hg)
      exact htold hb hp
    · rcases session_modify_cases hk hg with ⟨hxy, -⟩ | ⟨-, hg⟩
      · -- the session of another call is not this one
        obtain ⟨g', hg', hgd⟩ := he.busy d y hy hb
        cases Option.some.inj (hk.symm.trans (hxy ▸ hg'))
        exact absurd (hn d hgd) hd
      · exact he.told d y g hy hb hp hg

theorem Turn.enlisted (ht : G.Turn c x H) (hx : G.calls[c]? = some x) (he : G.Enlisted) :
    H.Enlisted := by
  have hH := ht.housed hx he.toHoused
  -- of a session that is gone on with the call is the host, and it stays told to end
  have hkeep : ∀ {f : Hosted → Hosted}, x.phase.isBusy = true →
      (∀ h, G.sessions[x.session]? = some h → h.Tended (f h)) → ∃ h, G.sessions[x.session]? = some h ∧
      (∀ d, h.host = some d → d = c) ∧ (f h).host = some c ∧
      ((f h).session.cancelled = false → c ∈ G.listed) ∧
      (x.phase ≠ .serving → (f h).session.cancelled = true) := fun hb hf => by
    obtain ⟨h, hk, hc⟩ := he.busy c x hx hb
    refine ⟨h, hk, fun d hd => Option.some.inj (hd.symm.trans hc), (hf h hk).host.trans hc,
      fun hn => he.served _ h c hk hc ?_, fun hp => (hf h hk).cancelled (he.told c x h hx hb hp hk)⟩
    refine Bool.eq_false_iff.mpr fun ht => ?_
    simp [(hf h hk).cancelled ht] at hn
  have hsplit : ∀ (d : Nat) (P : Prop), P → d ∈ G.listed → d = c ∧ P ∨ d ≠ c ∧ d ∈ G.listed :=
    fun d P hP hd => by
      by_cases h : d = c
      · exact .inl ⟨h, hP⟩
      · exact .inr ⟨h, hd⟩
  cases ht with
  | refuse hp => exact he.refuse hx hp (fun _ => id) fun _ hd _ _ => hd
  | unready hp =>
    refine he.refuse hx hp (fun d hd => ?_) fun d hd hne hn => mem_unlist.mpr ⟨?_, hne, hn⟩
    · obtain ⟨hd, hne, -⟩ := mem_unlist.mp hd
      exact (List.mem_append.mp hd).resolve_right fun h => hne (List.mem_singleton.mp h)
    · exact List.mem_append_left _ hd
  | @host h _ _ hk hi hc hs =>
    refine he.next (l := G.listed ++ [c]) hH hx hk
      (fun d hd => absurd hi (he.hosted _ h d hk hd).1) hc (fun d hd => ?_)
      (fun _ => List.mem_append_right _ (List.mem_singleton_self c))
      (fun d hd _ _ => List.mem_append_left _ hd) fun _ hn => absurd rfl hn
    by_cases hdc : d = c
    · exact .inl ⟨hdc, rfl⟩
    · exact .inr ⟨hdc, (List.mem_append.mp hd).resolve_right fun h => hdc (List.mem_singleton.mp h)⟩
  | leave hp hf =>
    obtain ⟨h, hk, hn, hc, hown, -⟩ :=
      hkeep (by simp [hp, ConsumeCall.Phase.isBusy]) fun h hk => (hf h hk).1
    exact he.next (l := G.listed) hH hx hk hn hc (fun d => hsplit d _ rfl) hown (fun _ hd _ _ => hd)
      fun _ _ => (hf h hk).2
  | keep hb hp hserve hf =>
    obtain ⟨h, hk, hn, hc, hown, htold⟩ := hkeep hb hf
    exact he.next (l := G.listed) hH hx hk hn hc (fun d => hsplit d _ hp) hown (fun _ hd _ _ => hd)
      fun _ hps => htold (hserve hps)
  | @finish f _ hb hp hf =>
    obtain ⟨h, hk, hn, hc, hown, htold⟩ := hkeep hb hf
    refine he.next (l := ((G.modify x.session f).unlist c).listed) hH hx hk hn hc (fun d hd => ?_)
      (fun hc => ?_) (fun d hd hne hn => mem_unlist.mpr ⟨hd, hne, hn⟩) fun hb => ?_
    · obtain ⟨hd, hne, -⟩ := mem_unlist.mp hd
      exact .inr ⟨hne, hd⟩
    · rw [htold hp] at hc
      cases hc
    · cases hb

end Ground

namespace Relay
variable {w₀ w v : Relay} {c : Nat} {ds : List Deed} {settings : Settings}

theorem Acts.enlisted (ha : Acts c w ds v) (he : w.ground.Enlisted) : v.ground.Enlisted := by
  rcases ha.turns with hd | ⟨d, x, hx, ht⟩
  · exact hd.enlisted he
  · exact ht.enlisted hx he

/-- There is nobody at the start. -/
theorem Fresh.enlisted (h0 : Fresh w) : w.ground.Enlisted := by
  have hg : w.ground.sessions = [] ∧ w.ground.calls = [] ∧ w.ground.listed = [] := by
    rcases h0 with rfl | ⟨settings, rfl⟩ <;> exact ⟨rfl, rfl, rfl⟩
  obtain ⟨hs, hc, hl⟩ := hg
  refine ⟨⟨?_, ?_, ?_⟩, ?_, ?_, ?_⟩ <;> simp [hs, hc, hl]

theorem Saga.enlisted (h : Saga c w₀ ds w) (h0 : Fresh w₀) : w.ground.Enlisted := by
  induction h with
  | here => exact h0.enlisted
  | next _ ha ih => exact ha.enlisted ih

theorem Reachable.enlisted (h : Reachable settings w) : w.ground.Enlisted := by
  obtain ⟨ds, hs⟩ := h.saga 0
  exact hs.enlisted (.inr ⟨settings, rfl⟩)

/-- **Whom a rebalance ends.** In every relay that a supervisor can come to, a rebalance tells all
sessions that have a host to end, and no others, and the broker keeps no token after it. -/
theorem Reachable.rebalance_ends (h : Reachable settings w) :
    w.rebalance.sessions = w.sessions.map (fun h => if h.host.isSome then h.dismiss else h) ∧
      w.rebalance.listed = [] := by
  have hg := (ground_rebalance w).trans h.enlisted.rebalance
  exact ⟨congrArg Ground.sessions hg, congrArg Ground.listed hg⟩

end Relay
end Sluice
