import Sluice.Proofs.Supervision.Membership
/-!
# What becomes of the errors of groups

A group takes errors until it is thrown away, and the forwarder passes them on one by one. It turns
to a new group as soon as it sees one, before it has read what the old one still holds. So in a
settled relay all errors of the present group have been passed on, in order. But what is unread when
its group is replaced is passed on by nobody.

* `errorsOf`: the errors of a group in the news.
* `Tuned`: the forwarder reads the present group, or is about to turn to it.
* `Accounted`: every error that was taken has been passed on, or was missed, or is still unread.
* `Chronicle.errors_accounted`: what becomes of errors in every run.
* `error_missed`: an error that is never shown.
-/
namespace Sluice

/-! ## The errors in the news -/

/-- The error that a group takes. -/
def Notice.accepted? : Notice → Option (Nat × RelayError)
  | .accepted g e => some (g, e)
  | _ => none

/-- The error of a group that is passed on. -/
def Notice.forwarded? : Notice → Option (Nat × RelayError)
  | .forwarded g e => some (g, e)
  | _ => none

/-- The error of a group that is missed. -/
def Notice.missed? : Notice → Option (Nat × RelayError)
  | .missed g e => some (g, e)
  | _ => none

/-- The errors of group `g` in the news of one kind, first to last. -/
def errorsOf (kind : Notice → Option (Nat × RelayError)) (g : Nat) (ns : List Notice) :
    List RelayError :=
  (ns.filterMap kind).filterMap fun x => if x.1 = g then some x.2 else none

theorem errorsOf_append (kind : Notice → Option (Nat × RelayError)) (g : Nat) (ns ms : List Notice) :
    errorsOf kind g (ns ++ ms) = errorsOf kind g ns ++ errorsOf kind g ms := by
  unfold errorsOf
  rw [List.filterMap_append, List.filterMap_append]

/-- News of another kind has no errors of this kind. -/
theorem errorsOf_none {kind : Notice → Option (Nat × RelayError)} {ns : List Notice}
    (h : ∀ n ∈ ns, kind n = none) (g : Nat) : errorsOf kind g ns = [] := by
  unfold errorsOf
  rw [List.filterMap_eq_nil_iff.mpr h]
  rfl

theorem errorsOf_one (kind : Notice → Option (Nat × RelayError)) (g : Nat) (n : Notice) :
    errorsOf kind g [n] =
      ((kind n).bind fun x => if x.1 = g then some x.2 else none).toList := by
  unfold errorsOf
  rw [List.filterMap_cons]
  cases kind n with
  | none => rfl
  | some x => by_cases h : x.1 = g <;> simp [h]

/-- What the operator is shown of the errors that are passed on. -/
def forwardedReports (ns : List Notice) : List Report :=
  (ns.filterMap Notice.forwarded?).map fun x => x.2.report

namespace Roster
variable {R S : Roster} {s s' : Supervisor} {ns : List Notice}

theorem missed_map (old g : Nat) (es : List RelayError) :
    errorsOf Notice.missed? g (es.map (.missed old)) = if old = g then es else [] := by
  induction es with
  | nil => simp [errorsOf]
  | cons e es ih =>
    rw [List.map_cons, ← List.singleton_append, errorsOf_append, ih]
    by_cases h : old = g <;> simp [errorsOf_one, Notice.missed?, h]

/-- When a group is replaced, exactly its unread errors are missed. -/
theorem missed_succession (R : Roster) (s : Supervisor) (topics : List String) (g : Nat) :
    errorsOf Notice.missed? g (R.succession s topics) =
      if s.group = some g then R.unread g else [] := by
  unfold succession
  rw [errorsOf_append, errorsOf_one _ g (.installed _ _)]
  simp only [Notice.missed?, Option.bind_none, Option.toList_none, List.append_nil]
  cases hg : s.group with
  | none => rfl
  | some old =>
    simp only [Option.toList_some, List.flatMap_cons, List.flatMap_nil, List.append_nil, missed_map,
      Option.some.injEq]
    split
    · next h => rw [h]
    · rfl

/-- Replacing a group takes no errors and passes none on. -/
theorem kind_succession {kind : Notice → Option (Nat × RelayError)}
    (hm : ∀ g e, kind (.missed g e) = none) (hi : ∀ g topics, kind (.installed g topics) = none)
    (R : Roster) (s : Supervisor) (topics : List String) :
    ∀ n ∈ R.succession s topics, kind n = none := by
  intro n hn
  unfold succession at hn
  rcases List.mem_append.mp hn with hn | hn
  · obtain ⟨old, -, hn⟩ := List.mem_flatMap.mp hn
    obtain ⟨e, -, rfl⟩ := List.mem_map.mp hn
    exact hm _ _
  · rw [List.mem_singleton.mp hn]
    exact hi _ _

/-! ## Streams and what they hold -/

/-- Where the stream of each group is. -/
def streams (R : Roster) : List ErrorStream := R.groups.map Group.stream

theorem unread_eq (R : Roster) (g : Nat) :
    R.unread g = ((R.groups.map Group.errors)[g]?).getD [] := by
  unfold unread
  rw [List.getElem?_map]

/-- Changing the errors of one group leaves those of all others. -/
theorem unread_modifyGroup (R : Roster) {g h : Nat} (hne : g ≠ h) (f : Group → Group) :
    (R.modifyGroup g f).unread h = R.unread h := by
  unfold unread modifyGroup
  rw [List.getElem?_modify_ne _ _ hne]

theorem streams_modifyGroup (R : Roster) (g : Nat) {f : Group → Group}
    (hf : ∀ x, (f x).stream = x.stream) : (R.modifyGroup g f).streams = R.streams :=
  view_modifyGroup R g hf

/-- Installing a group adds a new one, and of the others one is closed. -/
theorem view_install {α : Type} {v : Group → α}
    (hf : ∀ x : Group, v { x with closed := true } = v x) (R : Roster) (s : Supervisor)
    (topics : List String) :
    (R.install s topics).groups.map v = R.groups.map v ++ [v .fresh] := by
  unfold install
  dsimp only
  split
  · exact List.map_append
  · unfold leave
    split
    · exact List.map_append
    · exact (view_modifyGroup _ _ hf).trans List.map_append

/-- No error is read when a group is installed. -/
theorem unread_install (R : Roster) (s : Supervisor) (topics : List String) (g : Nat) :
    (R.install s topics).unread g = R.unread g := by
  rw [unread_eq, unread_eq, view_install fun _ => rfl, List.getElem?_append]
  split
  · rfl
  · next hge =>
    rw [List.getElem?_eq_none (l := R.groups.map Group.errors) (Nat.le_of_not_lt hge),
      List.getElem?_singleton]
    split <;> rfl

/-- Taking a stream reads nothing, and throwing one away only what is in it. -/
theorem unread_follow (R : Roster) {g : Nat} {reading : Option Nat} (hne : reading ≠ some g) :
    (R.follow s reading).unread g = R.unread g := by
  have hdrop : ∀ T : Roster, (T.dropStream? reading).unread g = T.unread g := fun T => by
    cases reading with
    | none => rfl
    | some r => exact unread_modifyGroup T (fun h => hne (congrArg some h)) _
  refine (hdrop _).trans ?_
  cases s.group with
  | none => rfl
  | some h =>
    rw [unread_eq, unread_eq]
    refine congrArg (fun l : List (List RelayError) => l[g]?.getD []) (view_modifyGroup R h ?_)
    intro x
    split <;> rfl

/-- Following the present group turns to its stream if that is there. -/
theorem supervisor_follow (reading : Option Nat)
    (hk : ∀ g, s.group = some g → R.streams[g]? = some .kept) :
    (R.follow s reading).supervisor =
      some { s with forwarder := .watching s.generation s.group } := by
  unfold follow
  cases hg : s.group with
  | none => simp [put]
  | some g =>
    obtain ⟨x, hx, hs⟩ := Option.map_eq_some_iff.mp ((List.getElem?_map ..).symm.trans (hk g hg))
    simp [put, hx, hs]

theorem length_follow (R : Roster) (s : Supervisor) (reading : Option Nat) :
    (R.follow s reading).groups.length = R.groups.length := by
  obtain ⟨groups, reading', he, hc⟩ := follow_eq R s reading
  rw [he]
  simpa [closings] using congrArg List.length hc

end Roster

/-! ## The forwarder and the present group -/

/-- How the forwarder stands to the groups before the end. -/
structure Tuned (R : Roster) (s : Supervisor) : Prop where
  none_ : s.group = none → R.groups = []
  newest : ∀ {g : Nat}, s.group = some g → g + 1 = R.groups.length
  watching : s.forwarder ≠ .ended
  seen : ∀ {n : Nat} {r : Option Nat}, s.forwarder = .watching n r → n ≤ s.generation
  reading : ∀ {n r : Nat}, s.forwarder = .watching n (some r) → r < R.groups.length
  /-- It reads the present group once it has seen that. -/
  current : ∀ {r : Option Nat}, s.forwarder = .watching s.generation r → r = s.group
  /-- Until then the stream of that group waits for it. -/
  behind : ∀ {n : Nat} {r : Option Nat} {g : Nat}, s.forwarder = .watching n r → n ≠ s.generation →
    s.group = some g → r ≠ some g ∧ R.streams[g]? = some .kept

namespace Tuned
open Roster
variable {R S : Roster} {s s' : Supervisor}

theorem start (settings : Settings) (due : Nat) :
    Tuned (.first (.first settings due)) (.first settings due) :=
  ⟨fun _ => rfl, nofun, nofun, fun h => by cases h; exact Nat.le_refl _, nofun,
    fun h => by cases h; rfl, nofun⟩

/-- The newest group is the present one. -/
theorem present (h : Tuned R s) (hn : R.groups ≠ []) : s.group = some (R.groups.length - 1) := by
  cases hs : s.group with
  | none => exact absurd (h.none_ hs) hn
  | some g =>
    have := h.newest hs
    exact congrArg some (by omega)

/-- Neither the groups with their streams nor the forwarder have changed. -/
theorem of_same (h : Tuned R s) (hg : S.streams = R.streams) (hsg : s'.group = s.group)
    (hn : s'.generation = s.generation) (hf : s'.forwarder = s.forwarder) : Tuned S s' := by
  have hlen : S.groups.length = R.groups.length := by
    simpa [streams] using congrArg List.length hg
  refine ⟨fun hs => ?_, fun hs => ?_, ?_, fun hw => ?_, fun hw => ?_, fun hw => ?_,
    fun hw hne hs => ?_⟩
  · rw [← List.length_eq_zero_iff, hlen, h.none_ (hsg ▸ hs)]
    rfl
  · rw [hlen]
    exact h.newest (hsg ▸ hs)
  · rw [hf]
    exact h.watching
  · rw [hn]
    exact h.seen (hf ▸ hw)
  · rw [hlen]
    exact h.reading (hf ▸ hw)
  · rw [hsg]
    rw [hf, hn] at hw
    exact h.current hw
  · rw [hg]
    exact h.behind (hf ▸ hw) (hn ▸ hne) (hsg ▸ hs)

/-- A group is installed: the forwarder has not seen it, and its stream waits. -/
theorem install (h : Tuned R s) (topics : List String) :
    Tuned (R.install s topics) (s.install topics R.groups.length) := by
  have hlen : (R.install s topics).groups.length = R.groups.length + 1 :=
    (install_fields R s topics).2.2.2.2.2.2.2.2.2.1
  refine ⟨nofun, fun hs => ?_, h.watching, fun hw => Nat.le_succ_of_le (h.seen hw), fun hw => ?_,
    fun hw => ?_, fun hw hne hs => ?_⟩
  · cases hs
    exact hlen.symm
  · rw [hlen]
    exact Nat.lt_succ_of_lt (h.reading hw)
  · exact absurd (h.seen hw) (Nat.not_succ_le_self _)
  · cases hs
    refine ⟨fun hr => ?_, ?_⟩
    · rw [hr] at hw
      exact Nat.lt_irrefl _ (h.reading hw)
    · unfold streams
      rw [view_install fun _ => rfl]
      simp [Group.fresh]

/-- The forwarder turns to the present group. -/
theorem follow (h : Tuned R s) (reading : Option Nat) :
    Tuned (R.follow s reading) { s with forwarder := .watching s.generation s.group } := by
  have hlen := length_follow R s reading
  refine ⟨fun hs => ?_, fun hs => ?_, nofun, fun hw => ?_, fun hw => ?_, fun hw => ?_,
    fun hw hne => ?_⟩
  · rw [← List.length_eq_zero_iff, hlen, h.none_ hs]
    rfl
  · rw [hlen]
    exact h.newest hs
  · cases hw
    exact Nat.le_refl _
  · rw [hlen]
    obtain ⟨-, hg⟩ := Supervisor.Forwarder.watching.inj hw
    have := h.newest hg
    omega
  · cases hw
    rfl
  · cases hw
    exact absurd rfl hne

end Tuned

/-! ## The account of errors -/

/-- What has become of all errors that groups have taken, before the end. -/
structure Accounted (ns : List Notice) (R : Roster) (s : Supervisor) : Prop where
  tuned : Tuned R s
  /-- First the errors that were passed on, then those that were missed, or are unread. -/
  balance : ∀ g : Nat, errorsOf Notice.accepted? g ns = errorsOf Notice.forwarded? g ns ++
    errorsOf Notice.missed? g ns ++ if s.group = some g then R.unread g else []
  /-- The present group has missed nothing. -/
  present : ∀ {g : Nat}, s.group = some g → errorsOf Notice.missed? g ns = []
  later : ∀ {g : Nat}, R.groups.length ≤ g → errorsOf Notice.accepted? g ns = []
  shown : (forwardedReports ns).Sublist R.reports

namespace Accounted
open Roster
variable {R S : Roster} {s s' : Supervisor} {ns ms : List Notice}

theorem start (settings : Settings) (due : Nat) :
    Accounted [] (.first (.first settings due)) (.first settings due) :=
  ⟨.start settings due, fun _ => rfl, fun _ => rfl, fun _ => rfl, .slnil⟩

/-- Nothing is told of errors, and none was read. -/
theorem of_same (h : Accounted ns R s) (ht : Tuned S s') (hsg : s'.group = s.group)
    (hu : ∀ g, s.group = some g → S.unread g = R.unread g) (hl : R.groups.length ≤ S.groups.length)
    (hr : R.reports.Sublist S.reports) : Accounted (ns ++ []) S s' := by
  rw [List.append_nil]
  refine ⟨ht, fun g => ?_, fun hs => h.present (hsg ▸ hs), fun hg => h.later (Nat.le_trans hl hg),
    h.shown.trans hr⟩
  rw [h.balance g, hsg]
  split
  · next hs => rw [hu g hs]
  · rfl

/-- The unread errors of the group that is replaced are missed. -/
theorem install (h : Accounted ns R s) (topics : List String) :
    Accounted (ns ++ R.succession s topics) (R.install s topics)
      (s.install topics R.groups.length) := by
  have hacc : ∀ g, errorsOf Notice.accepted? g (R.succession s topics) = [] :=
    errorsOf_none (kind_succession (fun _ _ => rfl) (fun _ _ => rfl) R s topics)
  have hforw : ∀ n ∈ R.succession s topics, n.forwarded? = none :=
    kind_succession (fun _ _ => rfl) (fun _ _ => rfl) R s topics
  obtain ⟨-, -, -, -, -, -, -, -, hrep, hlen, -⟩ := install_fields R s topics
  have hnew : errorsOf Notice.accepted? R.groups.length ns = [] := h.later (Nat.le_refl _)
  refine ⟨h.tuned.install topics, fun g => ?_, fun hs => ?_, fun hg => ?_, ?_⟩
  · rw [errorsOf_append, errorsOf_append, errorsOf_append, hacc, errorsOf_none hforw,
      missed_succession, unread_install, h.balance g, List.append_nil, List.append_nil]
    by_cases hg : R.groups.length = g
    · -- Nothing was ever told of the new group, and it holds nothing.
      have hold : s.group ≠ some g := fun hs => by
        have := h.tuned.newest hs
        omega
      have hun : R.unread g = [] := by
        rw [unread_eq, List.getElem?_eq_none (by simp [hg])]
        rfl
      simp [hold, hun, Supervisor.install]
    · have hother : (s.install topics R.groups.length).group ≠ some g := fun hs =>
        hg (Option.some.inj hs)
      rw [if_neg hother, List.append_nil, List.append_assoc]
  · cases hs
    rw [h.balance] at hnew
    obtain ⟨hnew, -⟩ := List.append_eq_nil_iff.mp hnew
    rw [errorsOf_append, (List.append_eq_nil_iff.mp hnew).2, missed_succession, if_neg]
    · rfl
    · intro hs
      have := h.tuned.newest hs
      omega
  · rw [errorsOf_append, hacc, h.later (by omega)]
    rfl
  · unfold forwardedReports
    rw [List.filterMap_append, List.filterMap_eq_nil_iff.mpr hforw, List.append_nil, hrep]
    exact h.shown

/-- The first error of the present group is passed on. -/
theorem forward (h : Accounted ns R s) {g : Nat} {e : RelayError} {rest : List RelayError}
    (hf : s.forwarder = .watching s.generation (some g)) (hu : R.unread g = e :: rest) :
    Accounted (ns ++ [.forwarded g e])
      ((R.modifyGroup g fun x => { x with errors := rest }).report e) s := by
  have hg : s.group = some g := (h.tuned.current hf).symm
  have hrest : (R.modifyGroup g fun x => { x with errors := rest }).unread g = rest := by
    unfold unread at hu ⊢
    unfold modifyGroup
    rw [List.getElem?_modify_eq]
    cases hx : R.groups[g]? with
    | none => rw [hx] at hu; cases hu
    | some x => rfl
  refine ⟨h.tuned.of_same (streams_modifyGroup R g fun _ => rfl) rfl rfl rfl, fun k => ?_,
    fun hs => ?_, fun hl => ?_, ?_⟩
  · rw [errorsOf_append, errorsOf_append, errorsOf_append, h.balance k]
    have hmod : ((R.modifyGroup g fun x => { x with errors := rest }).report e).unread k =
        (R.modifyGroup g fun x => { x with errors := rest }).unread k := rfl
    rw [hmod]
    by_cases hk : g = k
    · subst hk
      rw [hrest, if_pos hg, if_pos hg, hu, h.present hg]
      simp [errorsOf_one, Notice.accepted?, Notice.forwarded?, Notice.missed?]
    · rw [unread_modifyGroup R hk]
      simp [errorsOf_one, Notice.accepted?, Notice.forwarded?, Notice.missed?, hk]
  · rw [errorsOf_append, h.present hs]
    rfl
  · rw [errorsOf_append, h.later (by simpa [modifyGroup, Roster.report] using hl)]
    rfl
  · unfold forwardedReports
    rw [List.filterMap_append, List.map_append]
    exact h.shown.append (.refl _)

/-- The newest group is the present one, and takes an error. -/
theorem accept (h : Accounted ns R s) (e : RelayError) (hn : R.groups ≠ []) :
    Accounted (ns ++ [.accepted (R.groups.length - 1) e])
      (R.modifyGroup (R.groups.length - 1) fun x => { x with errors := x.errors ++ [e] }) s := by
  have hg := h.tuned.present hn
  generalize R.groups.length - 1 = g at hg ⊢
  have hmore : (R.modifyGroup g fun x => { x with errors := x.errors ++ [e] }).unread g =
      R.unread g ++ [e] := by
    have hlt : g < R.groups.length := by
      have := h.tuned.newest hg
      omega
    unfold unread modifyGroup
    rw [List.getElem?_modify_eq, List.getElem?_eq_getElem hlt]
    rfl
  refine ⟨h.tuned.of_same (streams_modifyGroup R g fun _ => rfl) rfl rfl rfl, fun k => ?_,
    fun hs => ?_, fun {k} hl => ?_, ?_⟩
  · rw [errorsOf_append, errorsOf_append, errorsOf_append, h.balance k]
    by_cases hk : g = k
    · subst hk
      rw [hmore, if_pos hg, if_pos hg]
      simp [errorsOf_one, Notice.accepted?, Notice.forwarded?, Notice.missed?]
    · rw [unread_modifyGroup R hk]
      simp [errorsOf_one, Notice.accepted?, Notice.forwarded?, Notice.missed?, hk]
  · rw [errorsOf_append, h.present hs]
    rfl
  · have hl : R.groups.length ≤ k := by simpa [modifyGroup] using hl
    have := h.tuned.newest hg
    rw [errorsOf_append, h.later hl, errorsOf_one]
    simp [Notice.accepted?]
    omega
  · unfold forwardedReports
    rw [List.filterMap_append, List.map_append]
    exact (List.append_nil _).symm ▸ h.shown

/-- Every change before the end keeps the account. -/
theorem change (h : Accounted ns R s) (hs : R.supervisor = some s) (hc : R.Change ms S)
    (hs' : S.supervisor = some s') (hst : S.stopped = false) : Accounted (ns ++ ms) S s' := by
  have hrun : R.stopped = false := Bool.eq_false_iff.mpr fun hR => by
    rw [hc.stays_stopped hR] at hst
    cases hst
  cases hc with
  | stop => cases hst
  | discard hR | endLoop _ hR | endForwarder _ hR | endRefresher _ hR =>
    rw [hrun] at hR
    cases hR
  | confirm | refuse | begin | leave | drain | giveUp | close | rebalance | look | call | wait
  | answer | abandon =>
    cases Option.some.inj (hs.symm.trans hs')
    exact h.of_same (h.tuned.of_same rfl rfl rfl rfl) rfl (fun _ _ => rfl) (Nat.le_refl _) (.refl _)
  | report e =>
    cases Option.some.inj (hs.symm.trans hs')
    exact h.of_same (h.tuned.of_same rfl rfl rfl rfl) rfl (fun _ _ => rfl) (Nat.le_refl _)
      (List.sublist_append_left _ _)
  | install topics h0 =>
    cases Option.some.inj (hs.symm.trans h0)
    rw [(install_fields R s topics).1] at hs'
    cases hs'
    exact h.install topics
  | turn _ h0 | crash h0 | serve h0 | postpone _ h0 | takeOver h0 | release h0 =>
    cases Option.some.inj (hs.symm.trans h0)
    cases hs'
    exact h.of_same (h.tuned.of_same rfl rfl rfl rfl) rfl (fun _ _ => rfl) (Nat.le_refl _) (.refl _)
  | @follow s₀ seen reading h0 _ hf hne =>
    cases Option.some.inj (hs.symm.trans h0)
    have hbehind := fun g hg => h.tuned.behind (g := g) hf (Ne.symm hne) hg
    rw [supervisor_follow reading fun g hg => (hbehind g hg).2] at hs'
    cases hs'
    obtain ⟨groups, reading', he, -⟩ := follow_eq R s reading
    have hr : (R.follow s reading).reports = R.reports := by rw [he]
    exact h.of_same (h.tuned.follow reading) rfl (fun g hg => unread_follow R (hbehind g hg).1)
      (Nat.le_of_eq (length_follow R s reading).symm) (hr ▸ .refl _)
  | forward h0 _ hf hu =>
    cases Option.some.inj (hs.symm.trans h0)
    cases Option.some.inj (hs.symm.trans hs')
    exact h.forward hf hu
  | accept e hl =>
    cases Option.some.inj (hs.symm.trans hs')
    exact h.accept e fun hn => by rw [hn] at hl; cases hl

end Accounted

namespace Relay
open Roster
variable {settings : Settings} {ns : List Notice} {w v : Relay} {s : Supervisor}

theorem Chronicle.accounted (h : Chronicle settings ns w) (hst : w.isStopped = false) :
    ∃ s, w.supervisor = some s ∧ Accounted ns w.roster s := by
  obtain ⟨s, hw, -, ha⟩ := h.holds (P := fun ns R s => R.stopped = false → Accounted ns R s)
    (fun due _ => .start settings due) fun {R S _ _ _ _} ha hs _ hc hs' hst => by
      have hR : R.stopped = false := Bool.eq_false_iff.mpr fun hR => by
        rw [hc.stays_stopped hR] at hst
        cases hst
      exact (ha hR).change hs hc hs' hst
  exact ⟨s, hw, ha hst⟩

/-- A refresh takes no errors and passes none on. -/
theorem kind_refreshed {kind : Notice → Option (Nat × RelayError)}
    (hm : ∀ g e, kind (.missed g e) = none) (hi : ∀ g topics, kind (.installed g topics) = none) :
    ∀ n ∈ w.refreshed s, kind n = none := by
  intro n hn
  rcases refreshed_cases w s with hr | hr <;> rw [hr] at hn
  · exact kind_succession hm hi _ _ _ n hn
  · cases hn

/-- An error that is passed on is shown, once. -/
theorem shown_of_forwarded (hw : w.supervisor = some s) {t : Task} {g : Nat} {e : RelayError}
    (hs : w.step t = some v) (hn : .forwarded g e ∈ w.moveNotices t) :
    w.moveNotices t = [.forwarded g e] ∧
      v.books.sink.errors.items = w.books.sink.errors.items ++ [e.report] := by
  rcases news_of_move hw t with ht | ⟨h, x, rfl, ht⟩ | ht
  · have hno : (Notice.forwarded g e).forwarded? = none :=
      kind_refreshed (fun _ _ => rfl) (fun _ _ => rfl) _ (ht ▸ hn)
    cases hno
  · rw [ht] at hn ⊢
    cases List.mem_singleton.mp hn
    refine ⟨rfl, ?_⟩
    have hm : w.moveNotices .forwarder = w.forwarderNotices s := by
      unfold moveNotices
      rw [hw]
    rw [hm] at ht
    cases move_of_step hs with
    | forwarder hw' hf =>
      cases Option.some.inj (hw.symm.trans hw')
      cases hf with
      | stop _ hst =>
        rw [forwarderNotices_of_stopped hst] at ht
        cases ht
      | follow hf _ hg =>
        rw [forwarderNotices_of_outdated hf hg] at ht
        cases ht
      | forward hf hst hu =>
        rw [forwarderNotices_of_unread hf hst hu] at ht
        cases ht
        rfl
  · rw [ht] at hn
    cases hn

/-- Errors are missed only when their group is replaced, and then all that are unread. -/
theorem missed_of_news {news : List Notice} (g : Nat)
    (hn : news = w.refreshed s ∨ errorsOf Notice.missed? g news = [] ∧ installs news = []) :
    errorsOf Notice.missed? g news =
      if installs news ≠ [] ∧ s.group = some g then w.roster.unread g else [] := by
  rcases hn with rfl | ⟨hm, hi⟩
  · rcases refreshed_cases w s with hr | hr <;> rw [hr]
    · rw [missed_succession, installs_succession]
      simp
    · rfl
  · rw [hm, if_neg fun h => h.1 hi]

/-- The forwarder of a settled relay has read all of the present group before the end. -/
theorem unread_of_settled (hs : w.Settled) (hw : w.supervisor = some s) (ht : Tuned w.roster s)
    (hst : w.isStopped = false) {g : Nat} (hg : s.group = some g) : w.roster.unread g = [] := by
  have hn := hs .forwarder
  simp only [step, hw, stepForwarder] at hn
  cases hf : s.forwarder with
  | ended => exact absurd hf ht.watching
  | watching n r =>
    simp only [hf, hst, Bool.false_eq_true, if_false] at hn
    split at hn
    · cases hn
    · next hgen =>
      rw [not_not] at hgen
      subst hgen
      have hr : r = some g := (ht.current hf).trans hg
      subst hr
      dsimp only at hn
      split at hn
      · next hu => exact hu
      · cases hn

/-- **What becomes of the errors of groups.** In every run of a supervisor before the end, whatever
the order of its tasks: of the errors that a group has taken, the first were passed on, in order, and
the others were missed or are still unread on the present group, which has missed none. So in a
settled relay all errors of the present group have been passed on. Only the present group takes
errors. What is passed on is shown to the operator, once and in order. Errors are missed only when
their group is replaced, and then all that are unread. -/
theorem Chronicle.errors_accounted (h : Chronicle settings ns w) (hst : w.isStopped = false) :
    ∃ s, w.supervisor = some s ∧
    (∀ g, errorsOf Notice.accepted? g ns = errorsOf Notice.forwarded? g ns ++
      errorsOf Notice.missed? g ns ++ if s.group = some g then w.roster.unread g else []) ∧
    (∀ g, s.group = some g → errorsOf Notice.missed? g ns = []) ∧
    (w.Settled → ∀ g, s.group = some g →
      errorsOf Notice.forwarded? g ns = errorsOf Notice.accepted? g ns) ∧
    (∀ e g x, (.accepted g x ∈ w.eventNotices e → s.group = some g) ∧
      .forwarded g x ∉ w.eventNotices e) ∧
    (∀ t v g x, w.step t = some v → .forwarded g x ∈ w.moveNotices t →
      w.moveNotices t = [.forwarded g x] ∧
        v.books.sink.errors.items = w.books.sink.errors.items ++ [x.report]) ∧
    (forwardedReports ns).Sublist w.books.sink.errors.items ∧
    (∀ news, ((∃ e, news = w.eventNotices e) ∨ ∃ t, news = w.moveNotices t) → ∀ g,
      errorsOf Notice.missed? g news =
        if installs news ≠ [] ∧ s.group = some g then w.roster.unread g else []) := by
  obtain ⟨s, hw, ha⟩ := h.accounted hst
  refine ⟨s, hw, ha.balance, fun g hg => ha.present hg, fun hs g hg => ?_, fun e g x => ?_,
    fun t v g x hs hn => shown_of_forwarded hw hs hn, ha.shown, fun news hn g => ?_⟩
  · rw [ha.balance g, ha.present hg, if_pos hg, unread_of_settled hs hw ha.tuned hst hg]
    simp
  · have hacc : ∀ n ∈ w.refreshed s, n.accepted? = none :=
      kind_refreshed (fun _ _ => rfl) fun _ _ => rfl
    have hforw : ∀ n ∈ w.refreshed s, n.forwarded? = none :=
      kind_refreshed (fun _ _ => rfl) fun _ _ => rfl
    rcases news_of_event hw e with he | ⟨text, hne, he⟩ | he <;> rw [he]
    · exact ⟨fun hn => (nomatch hacc _ hn), fun hn => (nomatch hforw _ hn)⟩
    · refine ⟨fun hn => ?_, by simp⟩
      cases List.mem_singleton.mp hn
      exact ha.tuned.present hne
    · exact ⟨nofun, nofun⟩
  · rcases hn with ⟨e, rfl⟩ | ⟨t, rfl⟩
    · refine missed_of_news g ?_
      rcases news_of_event hw e with he | ⟨text, -, he⟩ | he <;> rw [he]
      · exact .inl rfl
      · exact .inr ⟨rfl, rfl⟩
      · exact .inr ⟨rfl, rfl⟩
    · refine missed_of_news g ?_
      rcases news_of_move hw t with ht | ⟨h, e, -, ht⟩ | ht <;> rw [ht]
      · exact .inl rfl
      · exact .inr ⟨rfl, rfl⟩
      · exact .inr ⟨rfl, rfl⟩

/-- Before and after a change of the topics an error comes, and each is passed on in time. -/
theorem Chronicle.errors_accounted_twice : ∃ ns w, Chronicle plainSettings ns w ∧ w.Settled ∧
    w.isStopped = false ∧ errorsOf Notice.accepted? 0 ns = [.connection "early"] ∧
    errorsOf Notice.forwarded? 0 ns = [.connection "early"] ∧
    errorsOf Notice.accepted? 1 ns = [.connection "late"] ∧
    errorsOf Notice.forwarded? 1 ns = [.connection "late"] ∧
    w.books.sink.errors.items =
      [RelayError.report (.connection "early"), RelayError.report (.connection "late")] := by
  obtain ⟨⟨ns, w⟩, s, hr, hst, hw, hg, hs, h0, h0', h1, hi⟩ : ∃ x s,
      (empty.start plainSettings).recount
        [.inr .loop, .inr .forwarder, .inr .loop, .inl (.groupError "early"), .inr .forwarder,
          .inl (.createTopic "t" 1), .inl .refresh, .inr .forwarder, .inl (.groupError "late"),
          .inr .forwarder] = some x ∧
      x.2.isStopped = false ∧ x.2.supervisor = some s ∧ s.group = some 1 ∧
      x.2.isSettled = true ∧ errorsOf Notice.accepted? 0 x.1 = [.connection "early"] ∧
      errorsOf Notice.missed? 0 x.1 = [] ∧ errorsOf Notice.accepted? 1 x.1 = [.connection "late"] ∧
      x.2.books.sink.errors.items =
        [RelayError.report (.connection "early"), RelayError.report (.connection "late")] :=
    ⟨_, _, rfl, rfl, rfl, rfl, rfl, rfl, rfl, rfl, rfl⟩
  have h := Chronicle.start.recount hr
  have hs := settled_of_isSettled hs
  obtain ⟨s', hw', hbal, -, hpres, -⟩ := errors_accounted h hst
  cases Option.some.inj (hw.symm.trans hw')
  have hbal := hbal 0
  simp only [List.nil_append, h0, h0', hg, Option.some.injEq, Nat.one_ne_zero, if_false,
    List.append_nil] at hbal
  exact ⟨_, w, h, hs, hst, h0, hbal.symm, h1, (hpres hs 1 hg).trans h1, hi⟩

/-- **An error that is never shown.** The present group takes an error, and before the forwarder
moves the topics change: the forwarder turns to the new group and throws the error away. -/
theorem error_missed : ∃ (ns ms : List Notice) (u w : Relay) (s : Supervisor),
    Chronicle plainSettings ns u ∧ u.supervisor = some s ∧ s.group = some 0 ∧
    u.eventNotices (.groupError "gone") = [.accepted 0 (.connection "gone")] ∧
    (u.apply (.groupError "gone")).recount [.inl .refresh, .inr .forwarder] = some (ms, w) ∧
    w.Settled ∧ w.isStopped = false ∧ w.books.sink.errors.items = [] := by
  obtain ⟨⟨ns, u⟩, ⟨ms, w⟩, s, hu, hs, hg, he, hw, hset, hst, hi⟩ : ∃ x y s,
      (empty.start plainSettings).recount
        [.inr .loop, .inr .forwarder, .inr .loop, .inl (.createTopic "t" 1)] = some x ∧
      x.2.supervisor = some s ∧ s.group = some 0 ∧
      x.2.eventNotices (.groupError "gone") = [.accepted 0 (.connection "gone")] ∧
      (x.2.apply (.groupError "gone")).recount [.inl .refresh, .inr .forwarder] = some y ∧
      y.2.isSettled = true ∧ y.2.isStopped = false ∧ y.2.books.sink.errors.items = [] :=
    ⟨_, _, _, rfl, rfl, rfl, rfl, rfl, rfl, rfl, rfl⟩
  exact ⟨_, ms, u, w, s, Chronicle.start.recount hu, hs, hg, he, hw, settled_of_isSettled hset, hst,
    hi⟩

end Relay
end Sluice
