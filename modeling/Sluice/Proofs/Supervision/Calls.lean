import Sluice.Proofs.Supervision.Groups
/-!
# One call at a time

The consume loop makes a call and a session together and waits for the end of the call before it
makes the next ones. `Post.Fits` tells how far a session has come when its call has come so far;
`Orderly` says that all sessions fit their calls, that at most the loop's call has not ended, and that
this call is on the present group and topics unless its group has been replaced, and is closed.

* `Orderly.advance`: a call goes on.
* `Orderly.change`: every change keeps the calls orderly.
-/
namespace Sluice

/-- How far a session has come when call `c` serves it and has come to a phase. -/
def Post.Fits (stopped : Bool) (c : Nat) (p : Post) : ConsumeCall.Phase → Prop
  | .fresh => p = .idle
  | .serving => p.stage = .active ∧ p.confirmer ≠ .absent ∧ p.host = some c ∧
      p.token = Relay.rootToken ∧ (stopped = true → p.cancelled = true) ∧ p.feeders = p.claims
  | .leaving _ => p.stage = .active ∧ p.confirmer ≠ .absent ∧ p.cancelled = true ∧
      p.feeders = p.claims
  | .cleaning _ => p.stage = .draining ∧ p.confirmer ≠ .absent
  | .ended _ => p = .idle ∨ p.stage = .closed ∧ p.confirmer = .ended

namespace Post
variable {p : Post} {stopped stopped' : Bool} {c : Nat} {phase : ConsumeCall.Phase}

/-- A session that is told to end still fits its call. -/
theorem Fits.dismiss (h : p.Fits stopped c phase) (hh : p.isHosted = true) :
    p.dismiss.Fits stopped' c phase := by
  cases phase with
  | fresh => rw [h] at hh; cases hh
  | serving => exact ⟨h.1, h.2.1, h.2.2.1, h.2.2.2.1, fun _ => rfl, h.2.2.2.2.2⟩
  | leaving => exact ⟨h.1, h.2.1, rfl, h.2.2.2⟩
  | cleaning => exact h
  | ended =>
    rcases h with h | h
    · rw [h] at hh; cases hh
    · exact .inr h

/-- So does one that does not end with the supervisor. -/
theorem Fits.spare (h : p.Fits stopped c phase) (hs : p.isSupervised = false) :
    p.Fits stopped' c phase := by
  cases phase with
  | serving =>
    obtain ⟨-, -, hh, ht, -⟩ := h
    simp [isSupervised, isHosted, hh, ht] at hs
  | fresh | leaving | cleaning | ended => exact h

/-- The confirmer of a session that has begun and not ended goes on. -/
theorem Fits.confirm (h : p.Fits stopped c phase) (ha : p.confirmer ≠ .absent)
    (he : p.confirmer ≠ .ended) {f : Session.Confirmer} (hf : f ≠ .absent) :
    ({ p with confirmer := f } : Post).Fits stopped c phase := by
  cases phase with
  | fresh => exact absurd (congrArg Post.confirmer h) ha
  | serving => exact ⟨h.1, hf, h.2.2⟩
  | leaving => exact ⟨h.1, hf, h.2.2⟩
  | cleaning => exact ⟨h.1, hf⟩
  | ended =>
    rcases h with h | h
    · exact absurd (congrArg Post.confirmer h) ha
    · exact absurd h.2 he

end Post

/-- What holds of the calls of a supervisor. -/
structure Orderly (R : Roster) (s : Supervisor) : Prop where
  length : R.posts.length = R.calls.length
  /-- Calls and sessions come in pairs. -/
  paired : ∀ (c : Nat) (x : ConsumeCall), R.calls[c]? = some x →
    x.session = c ∧ x.token = Relay.rootToken
  fits : ∀ (c : Nat) (x : ConsumeCall) (p : Post), R.calls[c]? = some x → R.posts[c]? = some p →
    p.Fits R.stopped c x.phase
  busy : ∀ (c : Nat) (x : ConsumeCall), R.calls[c]? = some x →
    (∃ failure, x.phase = .ended failure) ∨ ∃ n, s.loop = .serving c n
  serving : ∀ c n, s.loop = .serving c n → ∃ x, R.calls[c]? = some x ∧ n ≤ s.generation ∧
    (n = s.generation → s.group = some x.group ∧ s.topics = x.topics) ∧
    (n ≠ s.generation → R.closings[x.group]? = some true)

namespace Orderly
open Roster
variable {R S : Roster} {s s' : Supervisor} {ns : List Notice}

theorem start (settings : Settings) (due : Nat) :
    Orderly (.first (.first settings due)) (.first settings due) :=
  ⟨rfl, fun c x hx => by simp [Roster.first] at hx, fun c x p hx => by simp [Roster.first] at hx,
    fun c x hx => by simp [Roster.first] at hx, nofun⟩

/-- Neither calls nor sessions have changed, and no group was opened or closed. -/
theorem of_same (h : Orderly R s) (hc : S.calls = R.calls) (hp : S.posts = R.posts)
    (hst : S.stopped = R.stopped) (hg : S.closings = R.closings)
    (hl : s'.loop = s.loop) (hsn : s'.generation = s.generation) (hsg : s'.group = s.group)
    (hsp : s'.topics = s.topics) : Orderly S s' where
  length := by rw [hc, hp]; exact h.length
  paired := by rw [hc]; exact h.paired
  fits := by rw [hc, hp, hst]; exact h.fits
  busy := by rw [hc, hl]; exact h.busy
  serving := by
    rw [hc, hl, hsn, hsg, hsp, hg]
    exact h.serving

/-- The call that is under way goes on, and its session with it. -/
theorem advance (h : Orderly R s) {c : Nat} {x : ConsumeCall} (hx : R.calls[c]? = some x)
    (hn : ∀ failure, x.phase ≠ .ended failure) {f : Post → Post} {phase : ConsumeCall.Phase}
    (hf : ∀ p, R.posts[c]? = some p → p.Fits R.stopped c x.phase → (f p).Fits R.stopped c phase) :
    Orderly ((R.modifyPost x.session f).setCall c phase) s := by
  rw [(h.paired c x hx).1]
  refine ⟨?_, fun d y hy => ?_, fun d y p hy hp => ?_, fun d y hy => ?_, fun d n hs => ?_⟩
  · simpa [setCall, modifyPost] using h.length
  · rcases modify_cases hy with hy | ⟨rfl, z, hz, rfl⟩
    · exact h.paired d y hy
    · exact h.paired c z hz
  · by_cases hd : c = d
    · subst hd
      obtain ⟨z, hz, rfl⟩ := Option.map_eq_some_iff.mp ((List.getElem?_modify_eq ..).symm.trans hy)
      obtain ⟨q, hq, rfl⟩ := Option.map_eq_some_iff.mp ((List.getElem?_modify_eq ..).symm.trans hp)
      cases Option.some.inj (hx.symm.trans hz)
      exact hf q hq (h.fits c x q hx hq)
    · exact h.fits d y p ((List.getElem?_modify_ne _ _ hd).symm.trans hy)
        ((List.getElem?_modify_ne _ _ hd).symm.trans hp)
  · rcases modify_cases hy with hy | ⟨rfl, z, hz, rfl⟩
    · exact h.busy d y hy
    · cases Option.some.inj (hx.symm.trans hz)
      exact .inr ((h.busy c x hx).resolve_left fun ⟨failure, he⟩ => hn failure he)
  · obtain ⟨y, hy, hr⟩ := h.serving d n hs
    by_cases hd : c = d
    · subst hd
      exact ⟨_, (List.getElem?_modify_eq ..).trans (congrArg (Option.map _) hy), hr⟩
    · exact ⟨y, (List.getElem?_modify_ne _ _ hd).trans hy, hr⟩

/-- Sessions are told to end, and still fit their calls. -/
theorem map_posts (h : Orderly R s) {f : Post → Post} {b : Bool}
    (hf : ∀ c p phase, Post.Fits R.stopped c p phase → (f p).Fits b c phase) :
    Orderly { R with posts := R.posts.map f, stopped := b } s where
  length := by simpa using h.length
  paired := h.paired
  fits := fun c x p hx hp => by
    obtain ⟨q, hq, rfl⟩ := Option.map_eq_some_iff.mp ((List.getElem?_map ..).symm.trans hp)
    exact hf c q x.phase (h.fits c x q hx hq)
  busy := h.busy
  serving := h.serving

/-- A loop that is free has no call under way. -/
theorem all_ended (h : Orderly R s) (hf : R.IsFree s.loop) {c : Nat} {x : ConsumeCall}
    (hx : R.calls[c]? = some x) : ∃ failure, x.phase = .ended failure := by
  rcases h.busy c x hx with he | ⟨n, hl⟩
  · exact he
  · rw [hl] at hf
    obtain ⟨y, failure, hy, hp⟩ := hf
    cases Option.some.inj (hx.symm.trans hy)
    exact ⟨failure, hp⟩

/-- The loop leaves a call that has ended. -/
theorem unloop (h : Orderly R s) (hf : R.IsFree s.loop) (hc : S.calls = R.calls)
    (hp : S.posts = R.posts) (hst : S.stopped = R.stopped)
    (hl : ∀ c n, s'.loop ≠ .serving c n) : Orderly S s' where
  length := by rw [hc, hp]; exact h.length
  paired := by rw [hc]; exact h.paired
  fits := by rw [hc, hp, hst]; exact h.fits
  busy := by
    rw [hc]
    exact fun c x hx => .inl (h.all_ended hf hx)
  serving := fun c n hs => absurd hs (hl c n)

/-- One session changes and still fits its call. -/
theorem modifyPost (h : Orderly R s) (k : Nat) {f : Post → Post}
    (hf : ∀ p phase, R.posts[k]? = some p → p.Fits R.stopped k phase →
      (f p).Fits R.stopped k phase) : Orderly (R.modifyPost k f) s where
  length := by simpa [Roster.modifyPost] using h.length
  paired := h.paired
  fits := fun c x p hx hp => by
    by_cases hk : k = c
    · subst hk
      obtain ⟨q, hq, rfl⟩ := Option.map_eq_some_iff.mp ((List.getElem?_modify_eq ..).symm.trans hp)
      exact hf q x.phase hq (h.fits k x q hx hq)
    · exact h.fits c x p hx ((List.getElem?_modify_ne _ _ hk).symm.trans hp)
  busy := h.busy
  serving := h.serving

/-- A new call and a new session come together. -/
theorem serve (h : Orderly R s) {g : Nat} (ht : s.loop = .top) (hg : s.group = some g) :
    Orderly (R.serve s g) { s with loop := .serving R.calls.length s.generation } := by
  have hended := fun {c : Nat} {x : ConsumeCall} (hx : R.calls[c]? = some x) =>
    h.all_ended (by rw [ht]; trivial) hx
  have hcases : ∀ {c : Nat} {x : ConsumeCall}, (R.serve s g).calls[c]? = some x →
      R.calls[c]? = some x ∨ c = R.calls.length ∧
        x = ⟨g, R.posts.length, s.topics, Relay.rootToken, .fresh⟩ := fun hx => concat_cases hx
  refine ⟨?_, fun c x hx => ?_, fun c x p hx hp => ?_, fun c x hx => ?_, fun c n hs => ?_⟩
  · simpa [Roster.serve, Roster.put] using h.length
  · rcases hcases hx with hx | ⟨rfl, rfl⟩
    · exact h.paired c x hx
    · exact ⟨h.length, rfl⟩
  · rcases concat_cases hp with hp | ⟨hc, rfl⟩
    · rcases hcases hx with hx | ⟨rfl, rfl⟩
      · exact h.fits c x p hx hp
      · have := (List.getElem?_eq_some_iff.mp hp).1
        exact absurd this (by rw [h.length]; exact Nat.lt_irrefl _)
    · rcases hcases hx with hx | ⟨rfl, rfl⟩
      · have := (List.getElem?_eq_some_iff.mp hx).1
        exact absurd this (by rw [hc, h.length]; exact Nat.lt_irrefl _)
      · exact rfl
  · rcases hcases hx with hx | ⟨rfl, rfl⟩
    · exact .inl (hended hx)
    · exact .inr ⟨_, rfl⟩
  · cases hs
    exact ⟨_, List.getElem?_concat_length, Nat.le_refl _, fun _ => ⟨hg, rfl⟩,
      fun hne => absurd rfl hne⟩

/-- A group is installed: the call of the loop is on the group before it, which is closed. -/
theorem install (h : Orderly R s) (he : Enrolled R s) (topics : List String) :
    Orderly (R.install s topics) (s.install topics R.groups.length) := by
  obtain ⟨-, -, -, hst, hca, hpo, -⟩ := install_fields R s topics
  refine ⟨by rw [hca, hpo]; exact h.length, by rw [hca]; exact h.paired,
    by rw [hca, hpo, hst]; exact h.fits, by rw [hca]; exact h.busy, fun c n hl => ?_⟩
  rw [hca]
  obtain ⟨x, hx, hn, hp, hcl⟩ := h.serving c n hl
  refine ⟨x, hx, Nat.le_succ_of_le hn, fun hne => ?_, fun _ => ?_⟩
  · exact absurd hn (by rw [hne]; exact Nat.not_succ_le_self _)
  · have hl : s.loop = .serving c n := hl
    rw [install_entry]
    by_cases hg : n = s.generation
    · have hopen := (he.open_ x.group).mpr ⟨(hp hg).1, by simp [hl]⟩
      rw [if_pos (hp hg).1, List.getElem?_append_left (List.getElem?_eq_some_iff.mp hopen).1, hopen]
      rfl
    · have hclosed := hcl hg
      rw [List.getElem?_append_left (List.getElem?_eq_some_iff.mp hclosed).1, hclosed]
      split <;> rfl

/-- Every change keeps the calls orderly. -/
theorem change (h : Orderly R s) (he : Enrolled R s) (hs : R.supervisor = some s)
    (hc : R.Change ns S) (hs' : S.supervisor = some s') : Orderly S s' := by
  cases hc with
  | confirm f hk ha hn hf =>
    cases Option.some.inj (hs.symm.trans hs')
    refine h.modifyPost _ fun p phase hp hfit => ?_
    cases Option.some.inj (hk.symm.trans hp)
    exact hfit.confirm ha hn hf
  | report | look | call | wait | answer | abandon =>
    cases Option.some.inj (hs.symm.trans hs')
    exact h.of_same rfl rfl rfl rfl rfl rfl rfl rfl
  | refuse failure hx hp =>
    cases Option.some.inj (hs.symm.trans hs')
    rw [← modifyPost_same R _]
    refine h.advance hx (by simp [hp]) fun p _ hfit => ?_
    rw [hp] at hfit
    exact .inl hfit
  | begin dismissed n hx hp hk hi ht =>
    cases Option.some.inj (hs.symm.trans hs')
    refine h.advance hx (by simp [hp]) fun p _ hfit => ?_
    rw [hp] at hfit
    have hfit : p = .idle := hfit
    have htok := (h.paired _ _ hx).2
    subst hfit
    exact ⟨rfl, nofun, rfl, htok, fun hst => (ht htok).trans hst, by simp [Post.idle]⟩
  | leave failure hx hp =>
    cases Option.some.inj (hs.symm.trans hs')
    refine h.advance hx (by simp [hp]) fun p _ hfit => ?_
    rw [hp] at hfit
    exact ⟨hfit.1, hfit.2.1, rfl, hfit.2.2.2.2.2⟩
  | drain hx hp hk ha =>
    cases Option.some.inj (hs.symm.trans hs')
    refine h.advance hx (by simp [hp]) fun p _ hfit => ?_
    rw [hp] at hfit
    exact ⟨rfl, hfit.2.1⟩
  | giveUp failure' hx hp hk ha =>
    have hse := (h.paired _ _ hx).1
    rw [hse] at hk
    have hfit := h.fits _ _ _ hx hk
    rw [hp] at hfit
    exact absurd hfit.1 ha
  | close hx hp hk hd hco =>
    cases Option.some.inj (hs.symm.trans hs')
    have hse := (h.paired _ _ hx).1
    refine h.advance hx (by simp [hp]) fun p hp' _ => .inr ⟨rfl, ?_⟩
    rw [hse] at hk
    cases Option.some.inj (hk.symm.trans hp')
    exact hco
  | rebalance =>
    cases Option.some.inj (hs.symm.trans hs')
    refine h.map_posts (b := R.stopped) fun c p phase hfit => ?_
    split
    · next hh => exact hfit.dismiss hh
    · exact hfit
  | stop =>
    cases Option.some.inj (hs.symm.trans hs')
    refine h.map_posts (b := true) fun c p phase hfit => ?_
    split
    · next hh => exact hfit.dismiss (Bool.and_eq_true_iff.mp hh).1
    · next hh => exact hfit.spare (Bool.eq_false_iff.mpr hh)
  | discard hst =>
    cases Option.some.inj (hs.symm.trans hs')
    refine ⟨h.length, h.paired, h.fits, h.busy, fun c n hl => ?_⟩
    obtain ⟨x, hx, hn, hp, hcl⟩ := h.serving c n hl
    refine ⟨x, hx, hn, hp, fun hne => ?_⟩
    have hg := hcl hne
    rw [discard_closings, List.getElem?_append_left (List.getElem?_eq_some_iff.mp hg).1]
    exact hg
  | install topics h0 hst =>
    cases Option.some.inj (hs.symm.trans h0)
    rw [(install_fields R s topics).1] at hs'
    cases hs'
    exact h.install he topics
  | turn p h0 hf hp =>
    cases Option.some.inj (hs.symm.trans h0)
    cases hs'
    refine h.unloop hf rfl rfl rfl fun c n => ?_
    rcases hp with rfl | ⟨m, rfl⟩ <;> exact nofun
  | endLoop h0 hst hf =>
    cases Option.some.inj (hs.symm.trans h0)
    cases hs'
    obtain ⟨groups, left, hl, -⟩ := leave?_eq R s.group
    rw [hl]
    exact h.unloop hf rfl rfl rfl nofun
  | crash h0 ht hfit =>
    cases Option.some.inj (hs.symm.trans h0)
    cases hs'
    exact h.unloop (by rw [ht]; trivial) rfl rfl rfl nofun
  | serve h0 ht hg hst =>
    cases Option.some.inj (hs.symm.trans h0)
    cases hs'
    exact h.serve ht hg
  | @endForwarder s₀ _ reading h0 hst hf =>
    cases Option.some.inj (hs.symm.trans h0)
    cases hs'
    obtain ⟨groups, hd, hcl⟩ := dropStream?_eq R reading
    rw [hd]
    exact h.of_same rfl rfl rfl hcl rfl rfl rfl rfl
  | @follow s₀ _ reading h0 hst hf hg =>
    cases Option.some.inj (hs.symm.trans h0)
    obtain ⟨groups, reading', hd, hcl⟩ := follow_eq R s reading
    rw [hd] at hs' ⊢
    cases hs'
    exact h.of_same rfl rfl rfl hcl rfl rfl rfl rfl
  | forward h0 hst hf hu =>
    cases Option.some.inj (hs.symm.trans hs')
    exact h.of_same rfl rfl rfl (closings_modifyGroup _ _ fun _ => rfl) rfl rfl rfl rfl
  | accept e hl hx =>
    cases Option.some.inj (hs.symm.trans hs')
    exact h.of_same rfl rfl rfl (closings_modifyGroup _ _ fun _ => rfl) rfl rfl rfl rfl
  | endRefresher h0 | postpone _ h0 | takeOver h0 | release h0 =>
    cases Option.some.inj (hs.symm.trans h0)
    cases hs'
    exact h.of_same rfl rfl rfl rfl rfl rfl rfl rfl

end Orderly
end Sluice
