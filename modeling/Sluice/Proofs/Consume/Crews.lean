import Mathlib.Data.List.Nodup
import Sluice.Proofs.Relay.Ground
import Sluice.Proofs.Session.Results
/-!
# The crew of a session

The claims and the feeders of a session are its crew. Whoever hosts the session starts them and waits
for them to end; in between they end one by one, and a claim that has ended is put into the line of
those that the host has not looked at. `Hosted.Onward` is what may become of a session while its host
does not move.

* `Hosted.result?`, `Hosted.endings`: who has ended, and who ends in a step.
* `Session.works_of_claim`, `Session.crew_of_confirmer`: what the tasks of a session do to its crew.
* `Hosted.onward_of_works`, `Hosted.onward_of_confirmer`, `Hosted.onward_of_feeding`: the session goes
  on.
-/
namespace Sluice

/-- A claim or a feeder. -/
inductive Worker where
  | claim (i : Nat)
  | feeder (i : Nat)
  deriving DecidableEq, Repr

/-- A claim or a feeder that ends, and the failure that it ends with. -/
abbrev Ending := Worker × Option RelayError

/-- How a claim has ended, if it has. -/
def Claim.result? (c : Claim) : Option (Option RelayError) :=
  match c.phase with
  | .ended failure => some failure
  | _ => none

theorem Claim.result_isSome {c : Claim} (h : c.hasEnded = true) : c.result?.isSome := by
  cases hp : c.phase with
  | ended failure => simp [result?, hp]
  | _ => simp [hasEnded, hp] at h

theorem Claim.failure_of_result {c : Claim} {failure : Option RelayError}
    (h : c.result? = some failure) : c.failure? = failure := by
  cases hp : c.phase with
  | ended e =>
    simp only [result?, hp, Option.some.injEq] at h
    simp [failure?, hp, h]
  | _ => simp [result?, hp] at h

/-- How a feeder has ended, if it has. -/
def Feeder.result? (f : Feeder) : Option (Option RelayError) :=
  if f.phase = .ended then some none else none

namespace Hosted

/-- The claims and feeders of a session. -/
def workers (h : Hosted) : List Worker :=
  (List.range h.session.claims.length).map .claim ++ (List.range h.feeders.length).map .feeder

/-- How a claim or a feeder has ended, if it is there and has. -/
def result? (h : Hosted) : Worker → Option (Option RelayError)
  | .claim i => h.session.claims[i]?.bind Claim.result?
  | .feeder i => h.feeders[i]?.bind Feeder.result?

/-- Who has ended from one moment to another. -/
def endings (h h' : Hosted) : List Ending :=
  h.workers.filterMap fun m =>
    match h.result? m, h'.result? m with
    | none, some failure => some (m, failure)
    | _, _ => none

end Hosted

/-- The number of a claim. -/
def Worker.claim? : Worker → Option Nat
  | .claim i => some i
  | .feeder _ => none

/-! ## A session while its host does not move -/

namespace Hosted
variable {h h' : Hosted} {m : Worker} {failure : Option RelayError}

theorem mem_workers : m ∈ h.workers ↔ match m with
    | .claim i => i < h.session.claims.length
    | .feeder i => i < h.feeders.length := by
  unfold workers
  cases m <;> simp

theorem workers_nodup (h : Hosted) : h.workers.Nodup := by
  unfold workers
  refine List.nodup_append.mpr ⟨List.Nodup.map (fun _ _ => Worker.claim.inj) List.nodup_range,
    List.Nodup.map (fun _ _ => Worker.feeder.inj) List.nodup_range, fun m hm n hn e => ?_⟩
  obtain ⟨i, -, rfl⟩ := List.mem_map.mp hm
  obtain ⟨j, -, rfl⟩ := List.mem_map.mp hn
  cases e

/-- Who has ended is there. -/
theorem mem_workers_of_result (hm : h.result? m = some failure) : m ∈ h.workers := by
  rw [mem_workers]
  cases m with
  | claim i =>
    obtain ⟨c, hc, -⟩ := Option.bind_eq_some_iff.mp hm
    exact (List.getElem?_eq_some_iff.mp hc).1
  | feeder i =>
    obtain ⟨f, hf, -⟩ := Option.bind_eq_some_iff.mp hm
    exact (List.getElem?_eq_some_iff.mp hf).1

/-- The crew as it may change while the host does not move: nobody ends, or one does, and is put into
the line if it is a claim. -/
inductive Shift (h : Hosted) : List Ending → Hosted → Prop where
  | nobody {h' : Hosted} : (∀ m, h'.result? m = h.result? m) → h'.ended = h.ended → Shift h [] h'
  | one {h' : Hosted} (m : Worker) (failure : Option RelayError) : m ∈ h.workers →
      h.result? m = none →
      (∀ n, h'.result? n = if n = m then some failure else h.result? n) →
      h'.ended = h.ended ++ m.claim?.toList → Shift h [(m, failure)] h'

/-- Nobody ends in a step that leaves all results as they are. -/
theorem endings_of_same (hr : ∀ m, h'.result? m = h.result? m) : h.endings h' = [] := by
  refine List.filterMap_eq_nil_iff.mpr fun m _ => ?_
  rw [hr m]
  cases h.result? m <;> rfl

/-- Who ends in a step is read from the session before and after it. -/
theorem Shift.endings {es : List Ending} (hc : h.Shift es h') : h.endings h' = es := by
  cases hc with
  | nobody hr => exact endings_of_same hr
  | one m failure hm hn hr =>
    refine filterMap_single h.workers_nodup hm (by simp [hn, hr]) fun n _ hne => ?_
    rw [hr n, if_neg hne]
    cases h.result? n <;> rfl

/-- What may become of a session while its host does not move. -/
structure Onward (h : Hosted) (es : List Ending) (h' : Hosted) : Prop where
  host : h'.host = h.host
  stage : h'.session.stage = h.session.stage
  cancelled : h.session.cancelled = true → h'.session.cancelled = true
  confirmer : h.session.confirmer = .ended → h'.session.confirmer = .ended
  claims : h'.session.claims.map Claim.source = h.session.claims.map Claim.source
  feeders : h'.feeders.map Feeder.source = h.feeders.map Feeder.source
  crew : h.Shift es h'

theorem Onward.refl (h : Hosted) : h.Onward [] h :=
  ⟨rfl, rfl, id, id, rfl, rfl, .nobody (fun _ => rfl) rfl⟩

/-- Nobody hosts the session, and nobody has worked for it. -/
structure Unhosted (h : Hosted) : Prop where
  host : h.host = none
  claims : h.session.claims = []
  ended : h.ended = []

/-- A session that nobody hosts has no claims that could end. -/
theorem Onward.unhosted {es : List Ending} (ho : h.Onward es h') (hn : h.Unhosted) : h'.Unhosted where
  host := ho.host.trans hn.host
  claims := by
    have hs := ho.claims
    rw [hn.claims] at hs
    exact List.map_eq_nil_iff.mp hs
  ended := by
    cases ho.crew with
    | nobody _ he => exact he.trans hn.ended
    | one m _ hm _ _ he =>
      rw [he, hn.ended]
      cases m with
      | claim i =>
        rw [mem_workers, hn.claims] at hm
        cases hm
      | feeder i => rfl

theorem Onward.dismiss (h : Hosted) : h.Onward [] h.dismiss :=
  ⟨rfl, rfl, fun _ => rfl, id, rfl, rfl, .nobody (fun m => by cases m <;> rfl) rfl⟩

end Hosted

/-! ## What the tasks of a session do to its crew -/

namespace Session
variable {r : Rules} {k i : Nat} {s s' : Session} {b b' : Books} {xs ys : List Signal}

theorem endedBy_append (xs ys : List Signal) : endedBy (xs ++ ys) = endedBy xs ++ endedBy ys :=
  List.filterMap_append

@[simp] theorem endedBy_granted (who : Option Nat) : endedBy (granted who) = [] := by
  cases who <;> rfl

@[simp] theorem endedBy_streamed (who : Option Nat) : endedBy (streamed who) = [] := by
  cases who <;> rfl

/-- The session has the claims, the stage and the confirmer that it had. -/
structure SameCrew (s s' : Session) : Prop where
  claims : s'.claims = s.claims
  stage : s'.stage = s.stage
  cancelled : s'.cancelled = s.cancelled
  confirmer : s'.confirmer = s.confirmer

/-- Claim `i` goes on as another claim on its partition. If it ends, the signals say so. -/
structure Works (s : Session) (i : Nat) (xs : List Signal) (s' : Session) : Prop where
  claim : ∃ c c', s.claims[i]? = some c ∧ c.result? = none ∧ c'.source = c.source ∧
    s'.claims = s.claims.modify i (fun _ => c') ∧
    endedBy xs = (c'.result?.map fun _ => i).toList
  stage : s'.stage = s.stage
  cancelled : s'.cancelled = s.cancelled
  confirmer : s'.confirmer = s.confirmer

theorem Works.of_modify {c : Claim} {f : Claim → Claim} (hc : s.claims[i]? = some c)
    (hn : c.result? = none) (hs : (s.modify i f).SameCrew s') (hsrc : (f c).source = c.source)
    (hx : endedBy xs = ((f c).result?.map fun _ => i).toList) : s.Works i xs s' where
  claim := ⟨c, f c, hc, hn, hsrc,
    hs.claims.trans (modify_congr s.claims i fun a ha => by rw [hc] at ha; cases ha; rfl), hx⟩
  stage := hs.stage
  cancelled := hs.cancelled
  confirmer := hs.confirmer

/-- Handling a message ends nobody. -/
theorem crew_of_handle (r : Rules) (k i : Nat) (m : Message) (s : Session) (b : Books) :
    s.SameCrew (s.handle r k i m b).1 ∧ endedBy (s.handle r k i m b).2.2 = [] := by
  unfold handle
  dsimp only
  split
  · exact ⟨⟨rfl, rfl, rfl, rfl⟩, endedBy_granted _⟩
  · split
    · exact ⟨⟨rfl, rfl, rfl, rfl⟩, endedBy_granted _⟩
    · dsimp only
      rw [endedBy_append]
      split
      · exact ⟨⟨rfl, rfl, rfl, rfl⟩, by split <;> exact endedBy_granted _⟩
      · exact ⟨⟨rfl, rfl, rfl, rfl⟩, by split <;> rfl⟩

/-- A claim that moves goes on or ends. -/
theorem works_of_claim (h : s.stepClaim r k i b = some (s', b', xs)) : s.Works i xs s' := by
  unfold stepClaim at h
  cases hc : s.claims[i]? with
  | none => simp [hc] at h
  | some c =>
    simp only [hc] at h
    cases hp : c.phase with
    | admitting =>
      have hn : c.result? = none := by simp [Claim.result?, hp]
      simp only [hp] at h
      split at h
      · cases h
        exact .of_modify hc hn ⟨rfl, rfl, rfl, rfl⟩ rfl rfl
      · split at h <;>
        · cases h
          exact .of_modify hc hn ⟨rfl, rfl, rfl, rfl⟩ rfl rfl
    | queued =>
      have hn : c.result? = none := by simp [Claim.result?, hp]
      simp only [hp] at h
      split at h
      · cases h
        exact .of_modify hc hn ⟨rfl, rfl, rfl, rfl⟩ rfl (by rw [endedBy_append, endedBy_granted]; rfl)
      · obtain ⟨w, -, he⟩ := Option.map_eq_some_iff.mp h
        cases he
        exact .of_modify hc hn ⟨rfl, rfl, rfl, rfl⟩ rfl rfl
    | reading =>
      have hn : c.result? = none := by simp [Claim.result?, hp]
      have hend : endedBy (granted s.window.release.1 ++ [.ended i]) = [i] := by
        rw [endedBy_append, endedBy_granted]
        rfl
      simp only [hp] at h
      split at h
      · cases h
        exact .of_modify hc hn ⟨rfl, rfl, rfl, rfl⟩ rfl hend
      · split at h
        · next m q hq =>
          cases h
          obtain ⟨hs, hx⟩ := crew_of_handle r k i m
            (s.modify i fun c => { c with queue := q, phase := .admitting }) b
          exact .of_modify hc hn hs rfl hx
        · next e q hq =>
          cases h
          refine .of_modify (f := fun c => { c with queue := q, phase := .ended (some e) }) hc hn
            ⟨?_, rfl, rfl, rfl⟩ rfl hend
          exact List.modify_modify_eq ..
        · split at h
          · cases h
          · cases h
            exact .of_modify hc hn ⟨rfl, rfl, rfl, rfl⟩ rfl hend
    | ended e => simp [hp] at h

/-- A confirmer has nothing to do with the crew. -/
theorem crew_of_confirmer (h : s.stepConfirmer k b = some (s', b', xs)) :
    s'.claims = s.claims ∧ s'.stage = s.stage ∧ s'.cancelled = s.cancelled ∧
      s.confirmer ≠ .ended ∧ endedBy xs = [] := by
  have happly : ∀ (d : Delivery) (s : Session) (b : Books), endedBy (s.apply k d b).2.2 = [] := by
    intro d s b
    unfold apply
    split
    · rfl
    · exact endedBy_granted _
  unfold stepConfirmer at h
  cases hf : s.confirmer with
  | absent | ended => simp [hf] at h
  | asking =>
    simp only [hf] at h
    split at h
    · cases h
      exact ⟨rfl, rfl, rfl, nofun, rfl⟩
    · split at h <;>
      · cases h
        exact ⟨rfl, rfl, rfl, nofun, rfl⟩
  | queued =>
    simp only [hf] at h
    split at h
    · cases h
      exact ⟨rfl, rfl, rfl, nofun, endedBy_streamed _⟩
    · obtain ⟨w, -, he⟩ := Option.map_eq_some_iff.mp h
      cases he
      exact ⟨rfl, rfl, rfl, nofun, rfl⟩
  | reading =>
    simp only [hf] at h
    split at h
    · cases h
      exact ⟨rfl, rfl, rfl, nofun, endedBy_streamed _⟩
    · split at h
      · cases h
      · next d sink hd =>
        cases h
        obtain ⟨h1, h2, h3, -⟩ := apply_same k d { s with confirmer := .asking } (taken b sink)
        refine ⟨h3, h1, h2, nofun, ?_⟩
        rw [endedBy_append, endedBy_streamed]
        exact happly d _ _
  | draining =>
    simp only [hf] at h
    split at h
    · cases h
      exact ⟨rfl, rfl, rfl, nofun, rfl⟩
    · next d sink hd =>
      have he := Option.some.inj h
      obtain ⟨h1, h2, h3, -⟩ := apply_same k d s { b with sink := sink }
      have hx := happly d s { b with sink := sink }
      rw [he] at h1 h2 h3 hx
      exact ⟨h3, h1, h2, nofun, hx⟩

end Session

/-! ## What becomes of a session -/

namespace Hosted
variable {h : Hosted} {i : Nat} {s' : Session} {xs : List Session.Signal}

theorem onward_of_works (hw : h.session.Works i xs s') :
    ∃ es, h.Onward es { h with session := s', ended := h.ended ++ Session.endedBy xs } := by
  obtain ⟨⟨c, c', hc, hn, hsrc, hcl, hx⟩, hst, hca, hco⟩ := hw
  have hres : ∀ m, ({ h with session := s', ended := h.ended ++ Session.endedBy xs } : Hosted).result? m =
      if m = .claim i then c'.result? else h.result? m := by
    intro m
    cases m with
    | claim j =>
      simp only [result?, hcl, Worker.claim.injEq]
      exact bind_modify hc j
    | feeder j => simp [result?]
  have hold : h.result? (.claim i) = none := by
    show h.session.claims[i]?.bind Claim.result? = none
    rw [hc]
    exact hn
  have hsrcs : s'.claims.map Claim.source = h.session.claims.map Claim.source := by
    rw [hcl]
    refine map_modify_same _ i fun a ha => ?_
    cases Option.some.inj (hc.symm.trans ha)
    exact hsrc
  cases hr : c'.result? with
  | none =>
    rw [hr] at hx
    refine ⟨[], rfl, hst, fun h => hca.trans h, fun h => hco.trans h, hsrcs, rfl,
      .nobody (fun m => ?_) (by rw [hx]; exact List.append_nil _)⟩
    rw [hres m, hr]
    split
    · next hm => rw [hm, hold]
    · rfl
  | some failure =>
    rw [hr] at hx
    refine ⟨_, rfl, hst, fun h => hca.trans h, fun h => hco.trans h, hsrcs, rfl,
      .one (.claim i) failure ?_ hold (fun m => ?_) (by rw [hx]; rfl)⟩
    · rw [mem_workers]
      exact (List.getElem?_eq_some_iff.mp hc).1
    · rw [hres m, hr]

theorem onward_of_confirmer (hcl : s'.claims = h.session.claims) (hst : s'.stage = h.session.stage)
    (hca : s'.cancelled = h.session.cancelled) (hco : h.session.confirmer ≠ .ended)
    (hx : Session.endedBy xs = []) :
    h.Onward [] { h with session := s', ended := h.ended ++ Session.endedBy xs } := by
  refine ⟨rfl, hst, fun h => hca.trans h, fun h => absurd h hco, by rw [hcl], rfl,
    .nobody (fun m => ?_) (by rw [hx]; exact List.append_nil _)⟩
  cases m with
  | claim j => simp only [result?, hcl]
  | feeder j => rfl

/-- Feeder `i` and claim `i` change, and neither starts, ends or reads another partition. -/
theorem onward_of_feeding {f : Feeder → Feeder} {g : Claim → Claim}
    (hf : ∀ x, (f x).source = x.source) (hg : ∀ x, (g x).source = x.source ∧ (g x).result? = x.result?)
    (hr : ∀ x, h.feeders[i]? = some x → (f x).result? = x.result?) :
    h.Onward [] { h with feeders := h.feeders.modify i f, session := h.session.modify i g } := by
  refine ⟨rfl, rfl, id, id, map_modify_same _ i fun x _ => (hg x).1, map_modify_same _ i fun x _ => hf x,
    .nobody (fun m => ?_) rfl⟩
  cases m with
  | claim j => exact bind_modify_same h.session.claims i (fun x _ => (hg x).2) j
  | feeder j => exact bind_modify_same h.feeders i hr j

/-- Feeder `i` ends. -/
theorem onward_of_feeder_end {f : Feeder} {g : Claim → Claim} (hi : h.feeders[i]? = some f)
    (hp : f.phase ≠ .ended) (hg : ∀ x, (g x).source = x.source ∧ (g x).result? = x.result?) :
    ∃ es, h.Onward es { h with
      feeders := h.feeders.modify i fun f => { f with phase := .ended }
      session := h.session.modify i g } := by
  refine ⟨_, rfl, rfl, id, id, map_modify_same _ i fun x _ => (hg x).1,
    map_modify_same _ i fun x _ => rfl, .one (.feeder i) none ?_ ?_ (fun m => ?_)
      (List.append_nil _).symm⟩
  · rw [mem_workers]
    exact (List.getElem?_eq_some_iff.mp hi).1
  · show h.feeders[i]?.bind Feeder.result? = none
    rw [hi]
    exact if_neg hp
  · cases m with
    | claim j =>
      rw [if_neg nofun]
      exact bind_modify_same h.session.claims i (fun x _ => (hg x).2) j
    | feeder j =>
      simp only [Worker.feeder.injEq]
      exact bind_modify hi j

end Hosted
end Sluice
