import Sluice.Proofs.Queue
import Sluice.Proofs.Session.Results
/-!
# What claims take from their queues

A claim takes items from its queue and ends; it never puts one there. Whoever fills the queue is told
when an item was taken and when the claim has ended, and of nothing else.

* `Claim.Onward`: what may become of a claim.
* `draws_of_step`: what a move does to the claims of its session, and whom it tells.
-/
namespace Sluice

/-- What may become of a claim: it takes items, and it ends. -/
structure Claim.Onward (c d : Claim) : Prop where
  source : d.source = c.source
  items : d.queue.items = c.queue.items
  taken : c.queue.taken ≤ d.queue.taken
  ended : c.hasEnded = true → d.hasEnded = true

theorem Claim.Onward.refl (c : Claim) : c.Onward c := ⟨rfl, rfl, Nat.le_refl _, id⟩

namespace Session
variable {r : Rules} {k i : Nat} {s s' : Session} {b b' : Books} {xs : List Signal}

/-- What a move does to the claims of its session, and whom it tells of it. -/
structure Draws (xs : List Signal) (s s' : Session) : Prop where
  cancelled : s'.cancelled = s.cancelled
  none : ∀ {i : Nat}, s.claims[i]? = none → s'.claims[i]? = none
  some : ∀ {i : Nat} {c}, s.claims[i]? = some c → ∃ d, s'.claims[i]? = some d ∧ c.Onward d ∧
    (.room i ∈ xs ∨ .ended i ∈ xs ∨ d.queue = c.queue ∧ d.hasEnded = c.hasEnded)

theorem draws_of_same (hx : s'.cancelled = s.cancelled) (hc : s'.claims = s.claims) : Draws xs s s' :=
  ⟨hx, fun h => by rwa [hc], fun {_ c} h => ⟨c, by rwa [hc], .refl c, .inr (.inr ⟨rfl, rfl⟩)⟩⟩

/-- One claim changes. -/
theorem draws_of_modify {c : Claim} {f : Claim → Claim} (hx : s'.cancelled = s.cancelled)
    (hi : s.claims[i]? = some c) (hc : s'.claims = s.claims.modify i f) (ho : c.Onward (f c))
    (hs : .room i ∈ xs ∨ .ended i ∈ xs ∨ (f c).queue = c.queue ∧ (f c).hasEnded = c.hasEnded) :
    Draws xs s s' := by
  refine ⟨hx, fun {j} hj => ?_, fun {j d} hj => ?_⟩ <;> rw [hc, List.getElem?_modify, hj]
  · rfl
  · by_cases e : i = j
    · subst e
      cases Option.some.inj (hi.symm.trans hj)
      exact ⟨f c, by simp, ho, hs⟩
    · exact ⟨d, by simp [e], .refl d, .inr (.inr ⟨rfl, rfl⟩)⟩

/-- A claim goes over to another phase without having ended. -/
theorem draws_setPhase {c : Claim} {p : Claim.Phase} {s₀ : Session} (hx : s₀.cancelled = s.cancelled)
    (hc : s₀.claims = s.claims) (hi : s.claims[i]? = some c) (hn : c.hasEnded = false)
    (hp : { c with phase := p }.hasEnded = false) : Draws xs s (s₀.setPhase i p) :=
  draws_of_modify hx hi (by rw [← hc]; rfl) ⟨rfl, rfl, Nat.le_refl _, fun h => by rw [hn] at h; cases h⟩
    (.inr (.inr ⟨rfl, hp.trans hn.symm⟩))

/-- A claim ends. -/
theorem draws_finish {c : Claim} {s₀ : Session} {e : Option RelayError}
    (hx : s₀.cancelled = s.cancelled) (hc : s₀.claims = s.claims) (hi : s.claims[i]? = some c)
    (hs : .ended i ∈ xs) : Draws xs s (s₀.finish i e) :=
  draws_of_modify hx hi (by rw [← hc]; rfl) ⟨rfl, rfl, Nat.le_refl _, fun _ => rfl⟩ (.inr (.inl hs))

theorem handle_same (r : Rules) (k i : Nat) (m : Message) (s : Session) (b : Books) :
    (s.handle r k i m b).1.cancelled = s.cancelled ∧ (s.handle r k i m b).1.claims = s.claims := by
  unfold handle
  dsimp only
  split
  · exact ⟨rfl, rfl⟩
  · split
    · exact ⟨rfl, rfl⟩
    · split <;> exact ⟨rfl, rfl⟩

theorem onward_pop {c : Claim} {x : Item} {q : Queue Item} (hq : c.queue.pop? = some (x, q))
    (hn : c.hasEnded = false) (p : Claim.Phase) : c.Onward { c with queue := q, phase := p } :=
  have h := Queue.items_of_pop? hq
  ⟨rfl, h.1, h.2 ▸ Nat.le_succ _, fun e => by rw [hn] at e; cases e⟩

theorem draws_of_stepClaim (h : s.stepClaim r k i b = some (s', b', xs)) : Draws xs s s' := by
  unfold stepClaim at h
  cases hc : s.claims[i]? with
  | none => simp [hc] at h
  | some c =>
    simp only [hc] at h
    cases hp : c.phase with
    | admitting =>
      have hn : c.hasEnded = false := by simp [Claim.hasEnded, hp]
      simp only [hp] at h
      split at h
      · cases h
        exact draws_finish rfl rfl hc (List.mem_singleton_self _)
      · split at h <;> cases h <;> exact draws_setPhase rfl rfl hc hn rfl
    | queued =>
      have hn : c.hasEnded = false := by simp [Claim.hasEnded, hp]
      simp only [hp] at h
      split at h
      · cases h
        exact draws_finish rfl rfl hc (List.mem_append_right _ (List.mem_singleton_self _))
      · obtain ⟨w, -, he⟩ := Option.map_eq_some_iff.mp h
        cases he
        exact draws_setPhase rfl rfl hc hn rfl
    | reading =>
      have hn : c.hasEnded = false := by simp [Claim.hasEnded, hp]
      simp only [hp] at h
      split at h
      · cases h
        exact draws_finish rfl rfl hc (List.mem_append_right _ (List.mem_singleton_self _))
      · split at h
        · next m q hq =>
          have hs := handle_same r k i m
            (s.modify i fun c => { c with queue := q, phase := .admitting }) b
          cases h
          exact draws_of_modify (f := fun c => { c with queue := q, phase := .admitting }) hs.1 hc hs.2
            (onward_pop hq hn _) (.inl List.mem_cons_self)
        · next e q hq =>
          cases h
          refine draws_of_modify (f := fun c => { c with queue := q, phase := .ended (some e) }) rfl hc
            ?_ (onward_pop hq hn _) (.inl List.mem_cons_self)
          exact List.modify_modify_eq ..
        · split at h
          · cases h
          · cases h
            exact draws_finish rfl rfl hc (List.mem_append_right _ (List.mem_singleton_self _))
    | ended e => simp [hp] at h

/-- Every move reads, or does nothing to the claims. -/
theorem draws_of_step {t : Task} (h : s.step r k t b = some (s', b', xs)) : Draws xs s s' := by
  cases t with
  | claim i => exact draws_of_stepClaim h
  | confirmer =>
    have hm := move_of_stepConfirmer (r := r) h
    cases hm with
    | dismissed | tune | attend | forgo | receive | letGo | drained => exact draws_of_same rfl rfl
    | result | leftover =>
      obtain ⟨-, hx, hc, -⟩ := apply_same k _ _ _
      exact draws_of_same hx hc
  | cleaner =>
    obtain ⟨u, hu, he⟩ := Option.map_eq_some_iff.mp h
    cases he
    unfold close? at hu
    split at hu
    · cases hu
      exact draws_of_same rfl rfl
    · cases hu

end Session

end Sluice
