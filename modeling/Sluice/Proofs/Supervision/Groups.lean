import Sluice.Proofs.Supervision.Roster
/-!
# Every group is joined once and left once

`Enrolled` is what holds of groups in every roster: as many were joined as there are, as many left as
are closed, and the only one that is open is the present one, until the consume loop ends.

* `Roster.leave_entry`, `Roster.left_leave`: what leaving a group does.
* `Enrolled.change`: every change keeps the groups enrolled.
-/
namespace Sluice

namespace Roster

/-- Whether each group has been closed. -/
def closings (R : Roster) : List Bool := R.groups.map Group.closed

theorem isClosed_eq (R : Roster) (g : Nat) : R.isClosed g = R.closings[g]?.getD true := by
  unfold isClosed closings
  rw [List.getElem?_map]

theorem join_closings (R : Roster) : R.join.closings = R.closings ++ [false] := by
  simp [closings, join, Group.fresh]

theorem discard_closings (R : Roster) : R.discard.closings = R.closings ++ [true] := by
  simp [closings, discard]

/-- A view of all groups stays what it is when something else of a group changes. -/
theorem view_modifyGroup {α : Type} {v : Group → α} (R : Roster) (g : Nat) {f : Group → Group}
    (hf : ∀ x, v (f x) = v x) : (R.modifyGroup g f).groups.map v = R.groups.map v :=
  map_modify_same R.groups g fun x _ => hf x

theorem closings_modifyGroup (R : Roster) (g : Nat) {f : Group → Group}
    (hf : ∀ x, (f x).closed = x.closed) : (R.modifyGroup g f).closings = R.closings :=
  view_modifyGroup R g hf

theorem leave_closings (R : Roster) (g : Nat) :
    (R.leave g).closings = R.closings.modify g fun _ => true := by
  unfold leave
  split
  · next hc =>
    rw [isClosed_eq] at hc
    refine (List.ext_getElem? fun j => ?_).symm
    rw [List.getElem?_modify]
    split
    · next hj =>
      subst hj
      cases hg : R.closings[g]? with
      | none => rfl
      | some b => rw [hg] at hc; cases hc; rfl
    · simp
  · exact map_modify (k := fun _ => true) R.groups g fun x _ => rfl

/-- A group that is left is closed, and all others stay what they are. -/
theorem leave_entry (R : Roster) (g j : Nat) :
    (R.leave g).closings[j]? =
      if g = j then R.closings[j]?.map fun _ => true else R.closings[j]? := by
  rw [leave_closings, List.getElem?_modify]
  split <;> simp

/-- Leaving counts the groups that are closed. -/
theorem left_leave {R : Roster} (h : R.left = R.closings.countP id) (g : Nat) :
    (R.leave g).left = (R.leave g).closings.countP id := by
  rw [leave_closings]
  unfold leave
  rw [isClosed_eq]
  cases hg : R.closings[g]? with
  | none =>
    rw [List.modify_eq_self (by simpa using hg)]
    exact h
  | some b =>
    have hc := countP_modify id (fun _ => true) R.closings hg
    cases b <;> simp at hc ⊢ <;> omega

theorem leave?_entry (R : Roster) (o : Option Nat) (j : Nat) :
    (R.leave? o).closings[j]? =
      if o = some j then R.closings[j]?.map fun _ => true else R.closings[j]? := by
  cases o with
  | none => rfl
  | some g =>
    simp only [Option.some.injEq]
    exact leave_entry R g j

theorem left_leave? {R : Roster} (h : R.left = R.closings.countP id) (o : Option Nat) :
    (R.leave? o).left = (R.leave? o).closings.countP id := by
  cases o with
  | none => exact h
  | some g => exact left_leave h g

/-- Leaving changes no more than groups and their count. -/
theorem leave?_eq (R : Roster) (o : Option Nat) : ∃ groups left,
    R.leave? o = { R with groups := groups, left := left } ∧
      groups.length = R.groups.length := by
  cases o with
  | none => exact ⟨_, _, rfl, rfl⟩
  | some g =>
    show ∃ groups left, R.leave g = _ ∧ _
    unfold leave
    split
    · exact ⟨_, _, rfl, rfl⟩
    · exact ⟨_, _, rfl, List.length_modify ..⟩

/-- Throwing a stream away closes no group. -/
theorem dropStream?_eq (R : Roster) (o : Option Nat) : ∃ groups,
    R.dropStream? o = { R with groups := groups } ∧ groups.map Group.closed = R.closings := by
  cases o with
  | none => exact ⟨_, rfl, rfl⟩
  | some g => exact ⟨_, rfl, closings_modifyGroup R g fun _ => rfl⟩

/-- Nor does following the present group. -/
theorem follow_eq (R : Roster) (s : Supervisor) (reading : Option Nat) : ∃ groups reading',
    R.follow s reading = { R with
      groups := groups
      supervisor := some { s with forwarder := .watching s.generation reading' } } ∧
      groups.map Group.closed = R.closings := by
  unfold follow
  dsimp only
  cases s.group with
  | none =>
    obtain ⟨groups, he, hc⟩ := dropStream?_eq R reading
    rw [he]
    exact ⟨groups, _, rfl, hc⟩
  | some g =>
    obtain ⟨groups, he, hc⟩ := dropStream?_eq (R.takeStream g) reading
    have ht : (R.takeStream g).closings = R.closings :=
      closings_modifyGroup R g fun x => by split <;> rfl
    rw [he]
    exact ⟨groups, _, rfl, hc.trans ht⟩

/-- Installing a group adds an open one and closes the one before it. -/
theorem install_entry (R : Roster) (s : Supervisor) (topics : List String) (j : Nat) :
    (R.install s topics).closings[j]? =
      if s.group = some j then (R.closings ++ [false])[j]?.map fun _ => true
      else (R.closings ++ [false])[j]? := by
  rw [← join_closings]
  unfold install
  cases s.group with
  | none => simp only [reduceCtorEq, if_false]; rfl
  | some old =>
    rw [leave_entry]
    simp only [Option.some.injEq]
    rfl

theorem left_install {R : Roster} (h : R.left = R.closings.countP id) (s : Supervisor)
    (topics : List String) :
    (R.install s topics).left = (R.install s topics).closings.countP id := by
  have hj : R.join.left = R.join.closings.countP id := by
    rw [join_closings, List.countP_append]
    exact h
  unfold install
  dsimp only
  split
  · exact hj
  · refine left_leave ?_ _
    exact hj

/-- What installing a group leaves as it is, or counts. -/
theorem install_fields (R : Roster) (s : Supervisor) (topics : List String) :
    (R.install s topics).supervisor = some (s.install topics R.groups.length) ∧
      (R.install s topics).opened = R.opened ∧ (R.install s topics).shut = R.shut ∧
      (R.install s topics).stopped = R.stopped ∧ (R.install s topics).calls = R.calls ∧
      (R.install s topics).posts = R.posts ∧ (R.install s topics).callers = R.callers ∧
      (R.install s topics).joined = R.joined + 1 ∧ (R.install s topics).reports = R.reports ∧
      (R.install s topics).groups.length = R.groups.length + 1 ∧
      (R.install s topics).swaps = R.swaps + if s.group = none then 0 else 1 := by
  unfold install leave
  dsimp only
  split
  · next hg => simp [join, put, hg]
  · next g hg => split <;> simp [join, put, modifyGroup, hg]

/-- What has been told to end stays so. -/
theorem Change.stays_stopped {R S : Roster} {ns : List Notice} (hc : R.Change ns S)
    (hst : R.stopped = true) : S.stopped = true := by
  cases hc with
  | confirm | report | refuse | begin | leave | drain | giveUp | close | rebalance | look | discard
  | forward | accept | call | wait | answer | abandon | turn | crash | serve | endRefresher
  | postpone | takeOver | release => exact hst
  | stop => rfl
  | @install s₀ topics => exact (install_fields R s₀ topics).2.2.2.1.trans hst
  | @endLoop s₀ =>
    obtain ⟨groups, left, he, -⟩ := leave?_eq R s₀.group
    rw [he]
    exact hst
  | @endForwarder s₀ _ reading =>
    obtain ⟨groups, he, -⟩ := dropStream?_eq R reading
    rw [he]
    exact hst
  | @follow s₀ _ reading =>
    obtain ⟨groups, reading', he, -⟩ := follow_eq R s₀ reading
    rw [he]
    exact hst

end Roster

/-- What holds of the groups that a supervisor joins. -/
structure Enrolled (R : Roster) (s : Supervisor) : Prop where
  looked : R.opened = R.shut
  joined : R.joined = R.closings.length
  left : R.left = R.closings.countP id
  swaps : R.swaps = s.generation - 1
  none_iff : s.group = none ↔ s.generation = 0
  /-- The only group that is open is the present one. -/
  open_ : ∀ g, R.closings[g]? = some false ↔ s.group = some g ∧ s.loop ≠ .ended
  ended : s.loop = .ended → R.stopped = true
  crashed : s.loop = .crashed → Pending.fits s.settings.maxUndelivered = false
  forwarder : s.forwarder = .ended → R.stopped = true

namespace Enrolled
open Roster
variable {R S : Roster} {s s' : Supervisor} {ns : List Notice}

theorem start (settings : Settings) (due : Nat) :
    Enrolled (.first (.first settings due)) (.first settings due) :=
  ⟨rfl, rfl, rfl, rfl, ⟨fun _ => rfl, fun _ => rfl⟩,
    fun g => ⟨fun hg => by simp [closings, Roster.first] at hg, fun hg => nomatch hg.1⟩,
    nofun, nofun, nofun⟩

/-- Nothing that this is about has changed. -/
theorem of_same (h : Enrolled R s) (hg : S.closings = R.closings) (hl : S.opened = R.opened)
    (hk : S.shut = R.shut) (hj : S.joined = R.joined) (ho : S.left = R.left) (hw : S.swaps = R.swaps)
    (hst : R.stopped = true → S.stopped = true) (hsg : s'.group = s.group)
    (hsn : s'.generation = s.generation) (hss : s'.settings = s.settings)
    (hsl : s'.loop = .ended ↔ s.loop = .ended) (hsc : s'.loop = .crashed → s.loop = .crashed)
    (hsf : s'.forwarder = .ended → s.forwarder = .ended ∨ S.stopped = true) : Enrolled S s' where
  looked := by rw [hl, hk]; exact h.looked
  joined := by rw [hj, hg]; exact h.joined
  left := by rw [ho, hg]; exact h.left
  swaps := by rw [hw, hsn]; exact h.swaps
  none_iff := by rw [hsg, hsn]; exact h.none_iff
  open_ := fun g => by rw [hg, hsg, ne_eq, hsl]; exact h.open_ g
  ended := fun he => hst (h.ended (hsl.mp he))
  crashed := fun hc => by rw [hss]; exact h.crashed (hsc hc)
  forwarder := fun hf => (hsf hf).elim (fun hf => hst (h.forwarder hf)) id

/-- A group is installed: the one before it was open and is closed. -/
theorem install (h : Enrolled R s) (hst : R.stopped = false) (topics : List String) :
    Enrolled (R.install s topics) (s.install topics R.groups.length) := by
  have hn : s.loop ≠ .ended := fun he => by simp [h.ended he] at hst
  have hlen : R.closings.length = R.groups.length := by simp [closings]
  obtain ⟨-, hop, hsh, hstop, -, -, -, hjo, -, hgl, hsw⟩ := install_fields R s topics
  refine ⟨?_, ?_, left_install h.left s topics, ?_, by simp [Supervisor.install], fun j => ?_,
    fun he => absurd he hn, h.crashed, fun hf => ?_⟩
  · rw [hop, hsh]
    exact h.looked
  · rw [hjo, h.joined, hlen]
    simp [closings, hgl]
  · rw [hsw, h.swaps]
    by_cases hg : s.group = none
    · simp [Supervisor.install, hg, h.none_iff.mp hg]
    · have : s.generation ≠ 0 := fun hz => hg (h.none_iff.mpr hz)
      simp only [Supervisor.install, hg, if_false]
      omega
  · have hold := h.open_ j
    rw [install_entry]
    simp only [Supervisor.install, ne_eq, hn, not_false_eq_true, and_true] at hold ⊢
    by_cases hj : s.group = some j
    · have hlt := (List.getElem?_eq_some_iff.mp (hold.mpr hj)).1
      simp only [hj, if_true, Option.some.injEq]
      constructor
      · intro he
        obtain ⟨b, -, hb⟩ := Option.map_eq_some_iff.mp he
        cases hb
      · omega
    · rw [if_neg hj, List.getElem?_append, Option.some.injEq, ← hlen]
      split
      · next hlt =>
        rw [hold]
        exact ⟨fun hg => absurd hg hj, fun he => by omega⟩
      · next hge =>
        by_cases hz : j - R.closings.length = 0
        · simp [hz]
          omega
        · obtain ⟨k, hk⟩ := Nat.exists_eq_succ_of_ne_zero hz
          simp [hk]
          omega
  · rw [hstop]
    exact h.forwarder hf

/-- Every change keeps the groups enrolled. -/
theorem change (h : Enrolled R s) (hs : R.supervisor = some s) (hc : R.Change ns S)
    (hs' : S.supervisor = some s') : Enrolled S s' := by
  cases hc with
  | confirm | report | refuse | begin | leave | drain | giveUp | close | rebalance | call | wait
  | answer | abandon =>
    cases Option.some.inj (hs.symm.trans hs')
    exact h.of_same rfl rfl rfl rfl rfl rfl id rfl rfl rfl .rfl id .inl
  | stop =>
    cases Option.some.inj (hs.symm.trans hs')
    exact h.of_same rfl rfl rfl rfl rfl rfl (fun _ => rfl) rfl rfl rfl .rfl id .inl
  | look =>
    cases Option.some.inj (hs.symm.trans hs')
    exact ⟨congrArg (· + 1) h.looked, h.joined, h.left, h.swaps, h.none_iff, h.open_, h.ended,
      h.crashed, h.forwarder⟩
  | discard hst =>
    cases Option.some.inj (hs.symm.trans hs')
    refine ⟨h.looked, ?_, ?_, h.swaps, h.none_iff, fun g => ?_, h.ended, h.crashed, h.forwarder⟩
    · rw [discard_closings]
      simp [Roster.discard, h.joined]
    · rw [discard_closings, List.countP_append, ← h.left]
      rfl
    · rw [discard_closings, ← h.open_ g, List.getElem?_append]
      split
      · exact .rfl
      · next hge =>
        rw [List.getElem?_eq_none (Nat.le_of_not_lt hge), List.getElem?_singleton]
        split <;> simp
  | install topics h0 hst =>
    cases Option.some.inj (hs.symm.trans h0)
    rw [(install_fields R s topics).1] at hs'
    cases hs'
    exact h.install hst topics
  | turn p h0 hf hp =>
    cases Option.some.inj (hs.symm.trans h0)
    cases hs'
    have hne : s.loop ≠ .ended := fun he => by rw [he] at hf; exact hf
    refine h.of_same rfl rfl rfl rfl rfl rfl id rfl rfl rfl ?_ ?_ .inl
    · rcases hp with rfl | ⟨m, rfl⟩ <;> simp [hne]
    · rcases hp with rfl | ⟨m, rfl⟩ <;> exact nofun
  | endLoop h0 hst hf =>
    cases Option.some.inj (hs.symm.trans h0)
    cases hs'
    have hl := left_leave? h.left s.group
    have hent := leave?_entry R s.group
    obtain ⟨groups, left, he, hlen⟩ := leave?_eq R s.group
    rw [he] at hl hent ⊢
    refine ⟨h.looked, ?_, hl, h.swaps, h.none_iff, fun g => ?_, fun _ => hst, nofun, fun _ => hst⟩
    · refine h.joined.trans ?_
      simp [closings, Roster.put, hlen]
    · refine (iff_of_eq (congrArg (· = some false) (hent g))).trans ?_
      split
      · simp
      · next hn => simp [h.open_ g, hn]
  | crash h0 ht hfit =>
    cases Option.some.inj (hs.symm.trans h0)
    cases hs'
    exact ⟨h.looked, h.joined, h.left, h.swaps, h.none_iff,
      fun g => (h.open_ g).trans (by simp [ht]), nofun, fun _ => hfit, h.forwarder⟩
  | serve h0 ht hg hst =>
    cases Option.some.inj (hs.symm.trans h0)
    cases hs'
    exact h.of_same rfl rfl rfl rfl rfl rfl id rfl rfl rfl (by simp [ht]) nofun .inl
  | @endForwarder s₀ _ reading h0 hst hf =>
    cases Option.some.inj (hs.symm.trans h0)
    cases hs'
    obtain ⟨groups, he, hc⟩ := dropStream?_eq R reading
    rw [he]
    exact h.of_same hc rfl rfl rfl rfl rfl id rfl rfl rfl .rfl id fun _ => .inr hst
  | @follow s₀ _ reading h0 hst hf hg =>
    cases Option.some.inj (hs.symm.trans h0)
    obtain ⟨groups, reading', he, hc⟩ := follow_eq R s reading
    rw [he] at hs' ⊢
    cases hs'
    exact h.of_same hc rfl rfl rfl rfl rfl id rfl rfl rfl .rfl id nofun
  | forward h0 hst hf hu =>
    cases Option.some.inj (hs.symm.trans hs')
    exact h.of_same (closings_modifyGroup _ _ fun _ => rfl) rfl rfl rfl rfl rfl id rfl rfl rfl .rfl id
      .inl
  | accept e hl hx =>
    cases Option.some.inj (hs.symm.trans hs')
    exact h.of_same (closings_modifyGroup _ _ fun _ => rfl) rfl rfl rfl rfl rfl id rfl rfl rfl .rfl id
      .inl
  | endRefresher h0 | postpone _ h0 | takeOver h0 | release h0 =>
    cases Option.some.inj (hs.symm.trans h0)
    cases hs'
    exact h.of_same rfl rfl rfl rfl rfl rfl id rfl rfl rfl .rfl id .inl

end Enrolled
end Sluice
