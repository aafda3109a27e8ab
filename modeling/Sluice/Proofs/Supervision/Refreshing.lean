import Sluice.Proofs.Supervision.Membership
/-!
# A refresh does all or nothing

A refresh looks the topics up, joins a group for them and installs it, and the broker may take its time
over each. `refreshAmid` is a refresh while others go on: they may tell the supervisor to end when the
topics have been read or when the group has been joined, and the consume loop may end meanwhile. Only
one thing they do not do, which is to install a group: refreshes are made one at a time. With nobody
else about, `refreshAmid` is `refresh`.

* `Meanwhile`: what others do.
* `Holding`: while a group is joined and not installed, it and the present one are all that is open.
* `Reachable.stages`: so it is at each stage of a refresh.
* `Reachable.refresh_all_or_nothing`: topics, group and generation change together or not at all, and
  no group stays open but the present one.
-/
namespace Sluice
open Roster

/-- A group that was joined is taken up for a list of topics; the group before it is left. -/
def Roster.takeUp (R : Roster) (s₀ s : Supervisor) (topics : List String) (g : Nat) : Roster :=
  let S := R.put (s.install topics g)
  match s₀.group with
  | none => S
  | some old => ({ S with swaps := S.swaps + 1 } : Roster).leave old

theorem Roster.leave_fields (R : Roster) (g : Nat) : (R.leave g).supervisor = R.supervisor ∧
    (R.leave g).swaps = R.swaps ∧ (R.leave g).stopped = R.stopped := by
  unfold Roster.leave
  split <;> exact ⟨rfl, rfl, rfl⟩

/-- What holds while group `x` is joined and not installed, if there is one, given the membership of
supervisor `s₀` and the swaps made by then. -/
structure Holding (s₀ : Supervisor) (swaps : Nat) (x : Option Nat) (R : Roster) (s : Supervisor) :
    Prop where
  topics : s.topics = s₀.topics
  group : s.group = s₀.group
  generation : s.generation = s₀.generation
  swaps : R.swaps = swaps
  open_ : ∀ g, R.closings[g]? = some false ↔ (s.group = some g ∧ s.loop ≠ .ended) ∨ x = some g
  apart : ∀ g, s.group = some g → s.loop ≠ .ended → x ≠ some g
  ended : s.loop = .ended → R.stopped = true

namespace Holding
variable {R S : Roster} {s₀ s s' : Supervisor} {n : Nat} {x : Option Nat} {ns : List Notice}

theorem of_same (h : Holding s₀ n x R s) (hg : S.closings = R.closings) (hw : S.swaps = R.swaps)
    (hst : R.stopped = true → S.stopped = true) (hst' : s'.topics = s.topics)
    (hsg : s'.group = s.group) (hsn : s'.generation = s.generation)
    (hsl : s'.loop = .ended ↔ s.loop = .ended) : Holding s₀ n x S s' where
  topics := hst'.trans h.topics
  group := hsg.trans h.group
  generation := hsn.trans h.generation
  swaps := hw.trans h.swaps
  open_ := fun g => by rw [hg, hsg, ne_eq, hsl]; exact h.open_ g
  apart := fun g hg hl => h.apart g (hsg ▸ hg) fun he => hl (hsl.mpr he)
  ended := fun he => hst (h.ended (hsl.mp he))

/-- A change that installs no group goes on holding the one that is not installed. -/
theorem change (h : Holding s₀ n x R s) (hs : R.supervisor = some s) (hc : R.Change ns S)
    (hs' : S.supervisor = some s') (hn : installs ns = []) : Holding s₀ n x S s' := by
  cases hc with
  | confirm | report | refuse | begin | leave | drain | giveUp | close | rebalance | look | call
  | wait | answer | abandon =>
    cases Option.some.inj (hs.symm.trans hs')
    exact h.of_same rfl rfl id rfl rfl rfl .rfl
  | stop =>
    cases Option.some.inj (hs.symm.trans hs')
    exact h.of_same rfl rfl (fun _ => rfl) rfl rfl rfl .rfl
  | discard =>
    cases Option.some.inj (hs.symm.trans hs')
    refine ⟨h.topics, h.group, h.generation, h.swaps, fun g => ?_, h.apart, h.ended⟩
    rw [discard_closings, ← h.open_ g, List.getElem?_append]
    split
    · exact .rfl
    · next hge =>
      rw [List.getElem?_eq_none (Nat.le_of_not_lt hge), List.getElem?_singleton]
      split <;> simp
  | install topics =>
    rw [installs_succession] at hn
    cases hn
  | turn p h0 hf hp =>
    cases Option.some.inj (hs.symm.trans h0)
    cases hs'
    have hne : s.loop ≠ .ended := fun he => by rw [he] at hf; exact hf
    refine h.of_same rfl rfl id rfl rfl rfl ?_
    rcases hp with rfl | ⟨m, rfl⟩ <;> simp [hne]
  | endLoop h0 hst hf =>
    cases Option.some.inj (hs.symm.trans h0)
    cases hs'
    have hne : s.loop ≠ .ended := fun he => by rw [he] at hf; exact hf
    have hent := leave?_entry R s.group
    obtain ⟨groups, left, he, -⟩ := leave?_eq R s.group
    rw [he] at hent ⊢
    refine ⟨h.topics, h.group, h.generation, h.swaps, fun g => ?_, fun g _ hl => absurd rfl hl,
      fun _ => hst⟩
    refine (iff_of_eq (congrArg (· = some false) (hent g))).trans ?_
    split
    · next hg => simp [h.apart g hg hne]
    · next hg => simp [h.open_ g, hg]
  | crash h0 ht | serve h0 ht =>
    cases Option.some.inj (hs.symm.trans h0)
    cases hs'
    exact h.of_same rfl rfl id rfl rfl rfl (by simp [ht])
  | @endForwarder s₁ _ reading h0 =>
    cases Option.some.inj (hs.symm.trans h0)
    cases hs'
    obtain ⟨groups, he, hc⟩ := dropStream?_eq R reading
    rw [he]
    exact h.of_same hc rfl id rfl rfl rfl .rfl
  | @follow s₁ _ reading h0 =>
    cases Option.some.inj (hs.symm.trans h0)
    obtain ⟨groups, reading', he, hc⟩ := follow_eq R s reading
    rw [he] at hs' ⊢
    cases hs'
    exact h.of_same hc rfl id rfl rfl rfl .rfl
  | forward | accept =>
    cases Option.some.inj (hs.symm.trans hs')
    exact h.of_same (closings_modifyGroup _ _ fun _ => rfl) rfl id rfl rfl rfl .rfl
  | endRefresher h0 | postpone _ h0 | takeOver h0 | release h0 =>
    cases Option.some.inj (hs.symm.trans h0)
    cases hs'
    exact h.of_same rfl rfl id rfl rfl rfl .rfl

theorem changes (hc : R.Changes ns S) (h : Holding s₀ n x R s) (hs : R.supervisor = some s)
    (hn : installs ns = []) : ∃ s', S.supervisor = some s' ∧ Holding s₀ n x S s' := by
  induction hc generalizing s with
  | none => exact ⟨s, hs, h⟩
  | next hc _ ih =>
    rw [installs_append, List.append_eq_nil_iff] at hn
    obtain ⟨s', hs', -⟩ := hc.supervised hs
    exact ih (h.change hs hc hs' hn.1) hs' hn.2

/-- Nothing is joined at the start of a refresh. -/
theorem of_enrolled (h : Enrolled R s) : Holding s R.swaps none R s :=
  ⟨rfl, rfl, rfl, rfl, fun g => (h.open_ g).trans (by simp), nofun, h.ended⟩

/-- A group is joined. -/
theorem join (h : Holding s₀ n none R s) : Holding s₀ n (some R.groups.length) R.join s := by
  have hlen : R.closings.length = R.groups.length := List.length_map _
  refine ⟨h.topics, h.group, h.generation, h.swaps, fun g => ?_, fun g hg hl he => ?_, h.ended⟩
  · have := h.open_ g
    rw [join_closings, List.getElem?_append, hlen]
    split
    · next hlt => simpa [Nat.ne_of_gt hlt] using this
    · next hge =>
      rw [List.getElem?_eq_none (by omega)] at this
      have hno : ¬ (s.group = some g ∧ s.loop ≠ .ended) := fun hg => by simpa using this.mpr (.inl hg)
      simp only [hno, false_or, Option.some.injEq, List.getElem?_singleton]
      split
      · simp only [true_iff]; omega
      · simp only [reduceCtorEq, false_iff]; omega
  · cases he
    have hlt := (List.getElem?_eq_some_iff.mp ((h.open_ _).mpr (.inl ⟨hg, hl⟩))).1
    omega

/-- The group that was joined is left again. -/
theorem leave {g : Nat} (h : Holding s₀ n (some g) R s) :
    Holding s₀ n none (R.leave g) s ∧ (R.leave g).closings[g]? = some true := by
  obtain ⟨-, hsw, hst⟩ := leave_fields R g
  refine ⟨⟨h.topics, h.group, h.generation, hsw.trans h.swaps, fun j => ?_, nofun,
    fun he => hst.trans (h.ended he)⟩, ?_⟩
  · rw [leave_entry]
    split
    · next hj =>
      subst hj
      have hno : ¬ (s.group = some g ∧ s.loop ≠ .ended) := fun ⟨hg, hl⟩ => h.apart g hg hl rfl
      simp [hno]
    · next hj => simp [h.open_ j, hj]
  · rw [leave_entry, if_pos rfl, (h.open_ g).mpr (.inr rfl)]
    rfl

/-- The group that was joined is installed: it is the only one that is open. -/
theorem takeUp {g : Nat} (h : Holding s₀ n (some g) R s) (hst : R.stopped = false)
    (topics : List String) :
    (R.takeUp s₀ s topics g).supervisor = some (s.install topics g) ∧
      (R.takeUp s₀ s topics g).swaps = n + (if s₀.group = none then 0 else 1) ∧
      (∀ j, (R.takeUp s₀ s topics g).closings[j]? = some false ↔ j = g) ∧
      ∀ old, s₀.group = some old → (R.takeUp s₀ s topics g).closings[old]? = some true := by
  have hl : s.loop ≠ .ended := fun he => by simp [h.ended he] at hst
  have hopen : ∀ j, R.closings[j]? = some false ↔ s₀.group = some j ∨ g = j := fun j => by
    simpa [hl, h.group] using h.open_ j
  unfold Roster.takeUp
  dsimp only
  cases hg : s₀.group with
  | none =>
    exact ⟨rfl, h.swaps, fun j => (hopen j).trans (by simp [hg, eq_comm]), nofun⟩
  | some old =>
    have hne : old ≠ g := fun e => h.apart old (h.group.trans hg) hl (congrArg some e.symm)
    obtain ⟨hsup, hsw, -⟩ := leave_fields
      ({ R.put (s.install topics g) with swaps := R.swaps + 1 } : Roster) old
    refine ⟨hsup, hsw.trans (congrArg (· + 1) h.swaps), fun j => ?_, fun old' ho => ?_⟩
    · rw [leave_entry]
      split
      · next hj => simp [← hj, hne]
      · next hj => exact (hopen j).trans (by simp [hg, hj, eq_comm])
    · cases ho
      rw [leave_entry, if_pos rfl]
      exact congrArg (Option.map fun _ => true) ((hopen old).mpr (.inl hg))

end Holding

namespace Relay
variable {settings : Settings} {w v u : Relay} {s s₀ s' : Supervisor} {n : Nat} {x : Option Nat}

/-- What others do in the meantime: anything but to install a group. -/
inductive Meanwhile (w : Relay) : Relay → Prop where
  | nothing : Meanwhile w w
  | event {v : Relay} (e : Event) : Meanwhile w v → installs (v.eventNotices e) = [] →
      Meanwhile w (v.apply e)
  | move {v u : Relay} (t : Task) : Meanwhile w v → v.step t = some u →
      installs (v.moveNotices t) = [] → Meanwhile w u

/-- The relay after the topics were looked up. -/
def looked (w : Relay) (s : Supervisor) : Relay :=
  { w with broker := (w.broker.select s.settings.pattern).2 }

/-- The relay after an attempt to join the group. -/
def joined (w : Relay) : Relay := { w with broker := w.broker.join.2 }

/-- A refresh while others go on: they do `f` when the topics have been looked up, and `g` when the
group has been joined. -/
def refreshAmid (f g : Relay → Relay) (w : Relay) (s : Supervisor) : Except RelayError Bool × Relay :=
  match (w.broker.select s.settings.pattern).1 with
  | .error e => (.error e, w.looked s)
  | .ok topics =>
    if s.group.isSome ∧ s.topics = topics then (.ok false, w.looked s)
    else
      let w := f (w.looked s)
      match w.broker.join.1 with
      | .error e => (.error e, w.joined)
      | .ok group =>
        let w := g w.joined
        if w.isStopped then
          let w := w.leaveGroup group
          (.ok false, { w with broker := w.broker.dropStream group })
        else (.ok true, w.install s topics group)

/-- With nobody else about this is a refresh. -/
theorem refreshAmid_alone (w : Relay) (s : Supervisor) : w.refreshAmid id id s = w.refresh s := rfl

/-- Group `g` was joined, and has not been left. -/
def IsOpen (w : Relay) (g : Nat) : Prop := ∃ x, w.broker.groups[g]? = some x ∧ x.closed = false

theorem isOpen_iff (w : Relay) (g : Nat) : w.IsOpen g ↔ w.roster.closings[g]? = some false := by
  unfold IsOpen closings roster
  simp

theorem Meanwhile.enlisted (hm : w.Meanwhile v) (hl : w.ground.Enlisted) : v.ground.Enlisted := by
  induction hm with
  | nothing => exact hl
  | event e _ _ ih => exact (Acts.use (c := 0) (.event e)).enlisted ih
  | move t _ ht _ ih => exact (Acts.task (c := 0) ht).enlisted ih

theorem Meanwhile.holding (hm : w.Meanwhile v) (hl : w.ground.Enlisted) (hw : w.supervisor = some s)
    (h : Holding s₀ n x w.roster s) : ∃ s', v.supervisor = some s' ∧ Holding s₀ n x v.roster s' := by
  induction hm with
  | nothing => exact ⟨s, hw, h⟩
  | event e hm hn ih =>
    obtain ⟨s', hs', h'⟩ := ih
    exact Holding.changes (changes_of_event (hm.enlisted hl) hs' e) h' hs' hn
  | move t _ ht hn ih =>
    obtain ⟨s', hs', h'⟩ := ih
    exact Holding.changes (changes_of_step hs' ht) h' hs' hn

/-- A refresh ends in one of five ways. -/
theorem refreshAmid_cases (f g : Relay → Relay) (w : Relay) (s : Supervisor) :
    (∃ e, (w.broker.select s.settings.pattern).1 = .error e ∧
      w.refreshAmid f g s = (.error e, w.looked s)) ∨
    ∃ topics, (w.broker.select s.settings.pattern).1 = .ok topics ∧
      ((s.group.isSome = true ∧ s.topics = topics ∧ w.refreshAmid f g s = (.ok false, w.looked s)) ∨
      (s.group = none ∨ s.topics ≠ topics) ∧
        ((∃ e, (f (w.looked s)).broker.join.1 = .error e ∧
          w.refreshAmid f g s = (.error e, (f (w.looked s)).joined)) ∨
        ∃ group u, (f (w.looked s)).broker.join.1 = .ok group ∧ u = g (f (w.looked s)).joined ∧
          ((u.isStopped = true ∧ w.refreshAmid f g s = (.ok false,
            { u.leaveGroup group with broker := (u.leaveGroup group).broker.dropStream group })) ∨
          (u.isStopped = false ∧ w.refreshAmid f g s = (.ok true, u.install s topics group))))) := by
  unfold refreshAmid
  cases (w.broker.select s.settings.pattern).1 with
  | error e => exact .inl ⟨e, rfl, rfl⟩
  | ok topics =>
    refine .inr ⟨topics, rfl, ?_⟩
    dsimp only
    by_cases hsame : s.group.isSome ∧ s.topics = topics
    · rw [if_pos hsame]
      exact .inl ⟨hsame.1, hsame.2, rfl⟩
    · rw [if_neg hsame]
      refine .inr ⟨?_, ?_⟩
      · by_cases ht : s.topics = topics
        · exact .inl (by simpa [ht] using hsame)
        · exact .inr ht
      · cases (f (w.looked s)).broker.join.1 with
        | error e => exact .inl ⟨e, rfl, rfl⟩
        | ok group =>
          refine .inr ⟨group, _, rfl, rfl, ?_⟩
          dsimp only
          cases hst : (g (f (w.looked s)).joined).isStopped with
          | true => exact .inl ⟨rfl, by rw [if_pos rfl]⟩
          | false => exact .inr ⟨rfl, by rw [if_neg nofun]⟩

/-- A group is installed if the topics could be read and are new, the group could be joined, and the
supervisor has not been told to end by then. -/
theorem refreshAmid_ok (f g : Relay → Relay) (w : Relay) (s : Supervisor) :
    (w.refreshAmid f g s).1 = .ok true ↔ ∃ topics group,
      (w.broker.select s.settings.pattern).1 = .ok topics ∧ (s.group = none ∨ s.topics ≠ topics) ∧
      (f (w.looked s)).broker.join.1 = .ok group ∧
      (g (f (w.looked s)).joined).isStopped = false := by
  rcases refreshAmid_cases f g w s with ⟨e, hsel, hr⟩ | ⟨topics, hsel, ⟨hg, ht, hr⟩ |
    ⟨hne, ⟨e, hj, hr⟩ | ⟨group, u, hj, rfl, ⟨hst, hr⟩ | ⟨hst, hr⟩⟩⟩⟩
  · simp [hsel, hr]
  · simp [hsel, hr, ht, Option.isSome_iff_ne_none.mp hg]
  · simp [hsel, hr, hj]
  · simp [hsel, hr, hst]
  · simp [hsel, hr, hj, hst, hne]

/-- A failure comes back if the topics could not be read, or are new and the group could not be
joined. -/
theorem refreshAmid_error (f g : Relay → Relay) (w : Relay) (s : Supervisor) (e : RelayError) :
    (w.refreshAmid f g s).1 = .error e ↔
      (w.broker.select s.settings.pattern).1 = .error e ∨
      ∃ topics, (w.broker.select s.settings.pattern).1 = .ok topics ∧
        (s.group = none ∨ s.topics ≠ topics) ∧ (f (w.looked s)).broker.join.1 = .error e := by
  rcases refreshAmid_cases f g w s with ⟨e', hsel, hr⟩ | ⟨topics, hsel, ⟨hg, ht, hr⟩ |
    ⟨hne, ⟨e', hj, hr⟩ | ⟨group, u, hj, rfl, ⟨hst, hr⟩ | ⟨hst, hr⟩⟩⟩⟩
  · simp [hsel, hr]
  · simp [hsel, hr, ht, Option.isSome_iff_ne_none.mp hg]
  · simp [hsel, hr, hj, hne]
  · simp [hsel, hr, hj]
  · simp [hsel, hr, hj]

theorem roster_looked (w : Relay) (s : Supervisor) : (w.looked s).roster = w.roster.look :=
  have h := Broker.select_same w.broker s.settings.pattern
  roster_look w h.1 h.2.2.1

/-- What joining a group adds to what is held. -/
theorem holding_joined (h : Holding s₀ n none w.roster s) :
    (∃ e, w.broker.join.1 = .error e ∧ Holding s₀ n none w.joined.roster s) ∨
      w.broker.join.1 = .ok w.broker.groups.length ∧
        Holding s₀ n (some w.broker.groups.length) w.joined.roster s := by
  rcases roster_join w with ⟨⟨e, he⟩, hr⟩ | ⟨hj, hr⟩
  · refine .inl ⟨e, he, ?_⟩
    unfold joined
    rwa [hr]
  · refine .inr ⟨hj, ?_⟩
    unfold joined
    rw [hr]
    exact h.join

/-- After the end a group is not installed but left. -/
theorem holding_discarded {g : Nat} (hw : w.supervisor = some s)
    (h : Holding s₀ n (some g) w.roster s) :
    ∃ v, v = { w.leaveGroup g with broker := (w.leaveGroup g).broker.dropStream g } ∧
      v.supervisor = some s ∧ Holding s₀ n none v.roster s ∧ v.HasLeft g := by
  refine ⟨_, rfl, supervisor_leaveGroup hw g, ?_⟩
  obtain ⟨hl, hg⟩ := h.leave
  have hr : ({ w.leaveGroup g with
      broker := (w.leaveGroup g).broker.dropStream g } : Relay).roster =
        (w.roster.leave g).dropStream? (some g) :=
    congrArg (Roster.dropStream? · (some g)) (roster_leaveGroup w g)
  obtain ⟨groups, he, hc⟩ := dropStream?_eq (w.roster.leave g) (some g)
  rw [hasLeft_iff, hr, he]
  exact ⟨hl.of_same hc rfl id rfl rfl rfl .rfl, (congrArg (·[g]?) hc).trans hg⟩

/-- A group that was joined is installed. -/
theorem roster_takeUp (hw : w.supervisor = some s) (s₀ : Supervisor) (topics : List String)
    (g : Nat) : (w.install s₀ topics g).roster = w.roster.takeUp s₀ s topics g := by
  have hm := roster_modifySupervisor hw fun s =>
    { s with topics := topics, group := some g, generation := s.generation + 1 }
  unfold install takeUp
  dsimp only
  cases s₀.group with
  | none => exact hm
  | some old =>
    rw [roster_leaveGroup]
    refine congrArg (Roster.leave · old) ?_
    exact congrArg (fun R : Roster => { R with swaps := R.swaps + 1 }) hm

/-! ## All or nothing -/

/-- From relay `w` with supervisor `s` to `v`, a group was installed for these topics: topics, group
and generation were replaced together, and the group before was closed. The generation is also what is
told to those who wait for a change. -/
structure Replaced (w : Relay) (s : Supervisor) (topics : List String) (group : Nat) (v : Relay) :
    Prop where
  membership : ∃ s', v.supervisor = some s' ∧ s'.topics = topics ∧ s'.group = some group ∧
    s'.generation = s.generation + 1
  swaps : v.books.metrics.swaps = w.books.metrics.swaps + if s.group = none then 0 else 1
  open_ : ∀ j, v.IsOpen j ↔ j = group
  left : ∀ old, s.group = some old → v.HasLeft old

/-- From relay `w` with supervisor `s` to `v`, nothing was replaced. The present group is open as long
as the consume loop has not ended, and no other group is. -/
structure Spared (w : Relay) (s : Supervisor) (v : Relay) : Prop where
  membership : ∃ s', v.supervisor = some s' ∧ s'.topics = s.topics ∧ s'.group = s.group ∧
    s'.generation = s.generation ∧ ∀ j, v.IsOpen j ↔ s.group = some j ∧ s'.loop ≠ .ended
  swaps : v.books.metrics.swaps = w.books.metrics.swaps

theorem spared_of_holding (hv : v.supervisor = some s')
    (h : Holding s w.books.metrics.swaps none v.roster s') : w.Spared s v := by
  refine ⟨⟨s', hv, h.topics, h.group, h.generation, fun j => ?_⟩, h.swaps⟩
  rw [isOpen_iff, h.open_, h.group]
  simp

theorem replaced_of_holding {group : Nat} (hv : v.supervisor = some s')
    (h : Holding s w.books.metrics.swaps (some group) v.roster s') (hst : v.isStopped = false)
    (topics : List String) : w.Replaced s topics group (v.install s topics group) := by
  obtain ⟨h1, h2, h3, h4⟩ := h.takeUp hst topics
  rw [← roster_takeUp hv s topics] at h1 h2 h3 h4
  exact ⟨⟨_, h1, rfl, rfl, congrArg (· + 1) h.generation⟩, h2,
    fun j => (isOpen_iff _ j).trans (h3 j), fun old ho => (hasLeft_iff _ old).mpr (h4 old ho)⟩

/-- What a refresh makes of relay `w` with supervisor `s`, whatever others do meanwhile. -/
structure AllOrNothing (f g : Relay → Relay) (w : Relay) (s : Supervisor) : Prop where
  /-- With nobody else about this is the refresh itself. -/
  alone : w.refreshAmid id id s = w.refresh s
  /-- A group is installed if the topics could be read and are new, the group could be joined, and the
  supervisor has not been told to end by then. -/
  succeeds : (w.refreshAmid f g s).1 = .ok true ↔ ∃ topics group,
    (w.broker.select s.settings.pattern).1 = .ok topics ∧ (s.group = none ∨ s.topics ≠ topics) ∧
    (f (w.looked s)).broker.join.1 = .ok group ∧ (g (f (w.looked s)).joined).isStopped = false
  /-- A failure comes back if the topics could not be read, or are new and the group could not be
  joined. -/
  fails : ∀ e, (w.refreshAmid f g s).1 = .error e ↔
    (w.broker.select s.settings.pattern).1 = .error e ∨
    ∃ topics, (w.broker.select s.settings.pattern).1 = .ok topics ∧
      (s.group = none ∨ s.topics ≠ topics) ∧ (f (w.looked s)).broker.join.1 = .error e
  all : (w.refreshAmid f g s).1 = .ok true → ∃ topics group,
    (w.broker.select s.settings.pattern).1 = .ok topics ∧
    (f (w.looked s)).broker.join.1 = .ok group ∧
    w.Replaced s topics group (w.refreshAmid f g s).2
  /-- Then a group that was joined all the same has been left. -/
  nothing : (w.refreshAmid f g s).1 ≠ .ok true → w.Spared s (w.refreshAmid f g s).2 ∧
    ∀ topics group, (w.broker.select s.settings.pattern).1 = .ok topics →
      (s.group = none ∨ s.topics ≠ topics) →
      (f (w.looked s)).broker.join.1 = .ok group → (w.refreshAmid f g s).2.HasLeft group

/-- What is held at each stage of a refresh: after the topics were looked up, after a group could not
be joined, and when the group that was joined is about to be installed or left. -/
structure Stages (f g : Relay → Relay) (w : Relay) (s : Supervisor) : Prop where
  looked : Holding s w.books.metrics.swaps none (w.looked s).roster s
  refused : ∀ e, (f (w.looked s)).broker.join.1 = .error e → ∃ s', (f (w.looked s)).joined.supervisor =
    some s' ∧ Holding s w.books.metrics.swaps none (f (w.looked s)).joined.roster s'
  held : ∀ group, (f (w.looked s)).broker.join.1 = .ok group →
    ∃ s', (g (f (w.looked s)).joined).supervisor = some s' ∧
      Holding s w.books.metrics.swaps (some group) (g (f (w.looked s)).joined).roster s'

theorem Reachable.stages {f g : Relay → Relay} (h : Reachable settings w) (hw : w.supervisor = some s)
    (hf : ∀ v : Relay, v.Meanwhile (f v)) (hg : ∀ v : Relay, v.Meanwhile (g v)) : Stages f g w s := by
  obtain ⟨s₁, hw₁, -, he, -⟩ := h.kept
  cases Option.some.inj (hw.symm.trans hw₁)
  have hlook : Holding s w.books.metrics.swaps none (w.looked s).roster s := by
    rw [roster_looked]
    exact (Holding.of_enrolled he).of_same rfl rfl id rfl rfl rfl .rfl
  -- neither looking topics up nor joining a group is seen in the sessions
  have hl : (w.looked s).ground.Enlisted := h.enlisted
  have hl₂ : (f (w.looked s)).joined.ground.Enlisted := (hf (w.looked s)).enlisted hl
  obtain ⟨s₂, hs₂, hu⟩ := (hf (w.looked s)).holding hl hw hlook
  rcases holding_joined hu with ⟨e, hj, hrefused⟩ | ⟨hj, hjoined⟩
  · refine ⟨hlook, fun e' _ => ⟨s₂, hs₂, hrefused⟩, fun group hgroup => ?_⟩
    rw [hj] at hgroup
    cases hgroup
  · refine ⟨hlook, fun e he => ?_, fun group hgroup => ?_⟩
    · rw [hj] at he
      cases he
    · cases hj.symm.trans hgroup
      exact (hg _).holding hl₂ hs₂ hjoined

/-- **A refresh does all or nothing.** Whichever way listing and joining end, and whatever others do
while the refresh waits, it either replaces topics, group and generation together and leaves the group
before, or it leaves all of them as they are and no other group open. -/
theorem Reachable.refresh_all_or_nothing {f g : Relay → Relay} (h : Reachable settings w)
    (hw : w.supervisor = some s) (hf : ∀ v : Relay, v.Meanwhile (f v))
    (hg : ∀ v : Relay, v.Meanwhile (g v)) : w.AllOrNothing f g s := by
  obtain ⟨hlook, hrefused, hheld⟩ := h.stages hw hf hg
  have hends : ((w.refreshAmid f g s).1 = .ok true ∧ ∃ topics group,
        (w.broker.select s.settings.pattern).1 = .ok topics ∧
        (f (w.looked s)).broker.join.1 = .ok group ∧
        w.Replaced s topics group (w.refreshAmid f g s).2) ∨
      (w.refreshAmid f g s).1 ≠ .ok true ∧ w.Spared s (w.refreshAmid f g s).2 ∧
        ∀ topics group, (w.broker.select s.settings.pattern).1 = .ok topics →
          (s.group = none ∨ s.topics ≠ topics) →
          (f (w.looked s)).broker.join.1 = .ok group → (w.refreshAmid f g s).2.HasLeft group := by
    rcases refreshAmid_cases f g w s with ⟨e, hsel, hr⟩ | ⟨topics, hsel, ⟨hsome, ht, hr⟩ |
      ⟨hne, ⟨e, hj, hr⟩ | ⟨group, u, hj, rfl, ⟨hst, hr⟩ | ⟨hst, hr⟩⟩⟩⟩ <;> rw [hr]
    · refine .inr ⟨nofun, spared_of_holding hw hlook, fun topics _ hsel' => ?_⟩
      rw [hsel] at hsel'
      cases hsel'
    · refine .inr ⟨nofun, spared_of_holding hw hlook, fun topics' _ hsel' hne => ?_⟩
      cases hsel.symm.trans hsel'
      rcases hne with hn | hn
      · exact absurd hn (Option.isSome_iff_ne_none.mp hsome)
      · exact absurd ht hn
    · obtain ⟨s₂, hs₂, h₂⟩ := hrefused e hj
      refine .inr ⟨nofun, spared_of_holding hs₂ h₂, fun _ _ _ _ hj' => ?_⟩
      rw [hj] at hj'
      cases hj'
    · obtain ⟨s₃, hs₃, h₃⟩ := hheld group hj
      obtain ⟨v, rfl, hv, h₄, hleft⟩ := holding_discarded hs₃ h₃
      refine .inr ⟨nofun, spared_of_holding hv h₄, fun _ _ _ _ hj' => ?_⟩
      cases hj.symm.trans hj'
      exact hleft
    · obtain ⟨s₃, hs₃, h₃⟩ := hheld group hj
      exact .inl ⟨rfl, topics, group, hsel, hj, replaced_of_holding hs₃ h₃ hst topics⟩
  exact {
    alone := refreshAmid_alone w s
    succeeds := refreshAmid_ok f g w s
    fails := refreshAmid_error f g w s
    all := fun hok => (hends.resolve_right fun h => h.1 hok).2
    nothing := fun hno => (hends.resolve_left fun h => hno h.1).2 }

/-- A topic appears, and the supervisor is told to end between joining and installing: the new group
is left and the old one stays. Had it not been told, the refresh would have swapped them. -/
theorem Reachable.refresh_all_or_nothing_late : ∃ w s, Reachable plainSettings w ∧
    w.supervisor = some s ∧ s.topics = [] ∧ s.group = some 0 ∧
    w.AllOrNothing (fun v => v.apply (.createTopic "u" 1)) (fun v => v.apply .cancel) s ∧
    (w.refreshAmid (fun v => v.apply (.createTopic "u" 1)) (fun v => v.apply .cancel) s).1 =
      .ok false ∧
    (w.refreshAmid (fun v => v.apply (.createTopic "u" 1)) (fun v => v.apply .cancel) s).2.HasLeft 1 ∧
    (w.refresh s).1 = .ok true := by
  obtain ⟨⟨ms, w⟩, hw, s, hs, ht, hg, ho, hl, hr⟩ : ∃ x, (empty.start plainSettings).replay
      [.inr .loop, .inl (.createTopic "t" 1)] = some x ∧ ∃ s, x.2.supervisor = some s ∧
      s.topics = [] ∧ s.group = some 0 ∧
      (x.2.refreshAmid (fun v => v.apply (.createTopic "u" 1)) (fun v => v.apply .cancel) s).1 =
        .ok false ∧
      (x.2.refreshAmid (fun v => v.apply (.createTopic "u" 1)) (fun v => v.apply .cancel) s).2.HasLeft
        1 ∧ (x.2.refresh s).1 = .ok true :=
    ⟨_, rfl, _, rfl, rfl, rfl, rfl, ⟨_, rfl, rfl⟩, rfl⟩
  have h := Reachable.start.replay hw
  have hall := h.refresh_all_or_nothing hs (f := fun v => v.apply (.createTopic "u" 1))
    (g := fun v => v.apply .cancel) (fun v => .event _ .nothing rfl) fun v => .event _ .nothing rfl
  exact ⟨w, s, h, hs, ht, hg, hall, ho, hl, hr⟩

end Relay
end Sluice
