import Sluice.Proofs.Consume.Crews
/-!
# Who has ended

The roll of a session: the claims and feeders that have ended, in the order in which they did, with
their failures. A host starts with an empty one, and it is full when everybody has ended.

* `Hosted.Crewed`: the partitions of a session, and its roll. `Crewed.onward`: it grows.
* `Hosted.Over`, `Crewed.perm`: everybody has ended, each once.
* `Hosted.Attended`, `Attended.first`: how far the host has looked at the claims that have ended.
-/
namespace Sluice
variable {h h' : Hosted} {ps : List Partition} {es fs : List Ending} {i : Nat}

/-- The session with claims and feeders on these partitions, hosted by call `c`. -/
def Hosted.staffed (h : Hosted) (c token : Nat) (s : Session) (ps : List Partition) : Hosted :=
  { h with
    session := { s with claims := s.claims ++ ps.map fun p => Claim.start p.topic p.index }
    feeders := ps.map fun p => ⟨p, 0, 0, .fresh⟩
    token := token
    host := some c }

namespace Hosted

/-- A session with claims and feeders on these partitions, of which these have ended, each once. -/
structure Crewed (h : Hosted) (ps : List Partition) (es : List Ending) : Prop where
  claims : h.session.claims.map Claim.source = ps
  feeders : h.feeders.map Feeder.source = ps
  ended : ∀ m failure, (m, failure) ∈ es ↔ h.result? m = some failure
  once : (es.map Prod.fst).Nodup

/-- Everybody has ended. -/
def Over (h : Hosted) : Prop := ∀ m ∈ h.workers, (h.result? m).isSome

/-- Of the claims that have ended, the host has looked at the first ones, and they had no failure. -/
def Attended (h : Hosted) (es : List Ending) : Prop :=
  ∃ seen rest, es = seen ++ rest ∧ (∀ e ∈ seen, e.2 = none) ∧
    rest.filterMap (fun e => e.1.claim?) = h.ended

/-- The session as its host leaves it: with the same claims and feeders. -/
structure Kept (h h' : Hosted) : Prop where
  host : h'.host = h.host
  claims : h'.session.claims = h.session.claims
  feeders : h'.feeders = h.feeders

theorem Kept.result (hk : h.Kept h') (m : Worker) : h'.result? m = h.result? m := by
  cases m with
  | claim i => simp only [result?, hk.claims]
  | feeder i => simp only [result?, hk.feeders]

theorem Kept.over (hk : h.Kept h') (ho : h.Over) : h'.Over := fun m hm => by
  rw [hk.result]
  exact ho m (by simpa only [mem_workers, hk.claims, hk.feeders] using hm)

theorem Crewed.kept (hc : h.Crewed ps es) (hk : h.Kept h') : h'.Crewed ps es where
  claims := hk.claims ▸ hc.claims
  feeders := hk.feeders ▸ hc.feeders
  ended m failure := by rw [hk.result, hc.ended]
  once := hc.once

/-- Nobody has ended when the claims and feeders are started. -/
theorem crewed_staffed {c token : Nat} {s : Session} (hs : s.claims = []) :
    (h.staffed c token s ps).Crewed ps [] where
  claims := by
    simp only [staffed, hs, List.nil_append, List.map_map]
    exact List.map_id ps
  feeders := by
    simp only [staffed, List.map_map]
    exact List.map_id ps
  ended m failure := by
    refine ⟨nofun, fun hr => ?_⟩
    cases m with
    | claim i =>
      simp only [result?, staffed, hs, List.nil_append, List.getElem?_map] at hr
      cases hp : ps[i]? <;> simp [hp, Claim.start, Claim.result?] at hr
    | feeder i =>
      simp only [result?, staffed, List.getElem?_map] at hr
      cases hp : ps[i]? <;> simp [hp, Feeder.result?] at hr
  once := List.nodup_nil

/-- Whoever ends had not ended before. -/
theorem Crewed.onward (hc : h.Crewed ps es) (ho : h.Onward fs h') : h'.Crewed ps (es ++ fs) where
  claims := ho.claims.trans hc.claims
  feeders := ho.feeders.trans hc.feeders
  ended m failure := by
    cases ho.crew with
    | nobody hr => rw [List.append_nil, hr, hc.ended]
    | one n e hn hnone hr =>
      rw [List.mem_append, List.mem_singleton, hr, hc.ended]
      by_cases hm : m = n
      · subst hm
        simp [hnone, eq_comm]
      · simp [hm]
  once := by
    cases ho.crew with
    | nobody => simpa using hc.once
    | one n e hn hnone =>
      rw [List.map_append, List.nodup_append]
      refine ⟨hc.once, List.nodup_singleton n, fun m hm k hk => ?_⟩
      obtain ⟨⟨_, failure⟩, he, rfl⟩ := List.mem_map.mp hm
      cases List.mem_singleton.mp hk
      rintro rfl
      rw [(hc.ended _ failure).mp he] at hnone
      cases hnone

/-- Everybody has ended, each once. -/
theorem Crewed.perm (hc : h.Crewed ps es) (ho : h.Over) : (es.map Prod.fst).Perm h.workers := by
  refine (List.perm_ext_iff_of_nodup hc.once h.workers_nodup).mpr fun m => ⟨fun hm => ?_, fun hm => ?_⟩
  · obtain ⟨⟨_, failure⟩, he, rfl⟩ := List.mem_map.mp hm
    exact mem_workers_of_result ((hc.ended _ failure).mp he)
  · obtain ⟨failure, he⟩ := Option.isSome_iff_exists.mp (ho m hm)
    exact List.mem_map.mpr ⟨_, (hc.ended m failure).mpr he, rfl⟩

/-- When everybody has ended, nobody ends any more. -/
theorem Over.onward (ho : h.Over) (hs : h.Onward es h') : es = [] ∧ h'.Over := by
  cases hs.crew with
  | nobody hr =>
    refine ⟨rfl, fun m hm => hr m ▸ ho m ?_⟩
    have hc := congrArg List.length hs.claims
    have hf := congrArg List.length hs.feeders
    simp only [List.length_map] at hc hf
    simpa only [mem_workers, hc, hf] using hm
  | one m e hm hnone =>
    have := ho m hm
    rw [hnone] at this
    cases this

theorem over_of_ended (hf : ∀ f ∈ h.feeders, f.phase = .ended)
    (hc : ∀ c ∈ h.session.claims, c.hasEnded = true) : h.Over := by
  intro m hm
  rw [mem_workers] at hm
  cases m with
  | claim i =>
    have he := hc _ (List.getElem_mem hm)
    simp only [result?, List.getElem?_eq_getElem hm, Option.bind_some]
    exact Claim.result_isSome he
  | feeder i =>
    simp [result?, List.getElem?_eq_getElem hm, Feeder.result?, hf _ (List.getElem_mem hm)]

theorem Attended.onward (ha : h.Attended es) (ho : h.Onward fs h') : h'.Attended (es ++ fs) := by
  obtain ⟨seen, rest, rfl, hs, hr⟩ := ha
  refine ⟨seen, rest ++ fs, List.append_assoc .., hs, ?_⟩
  rw [List.filterMap_append, hr]
  cases ho.crew with
  | nobody _ he => rw [he, List.filterMap_nil, List.append_nil]
  | one m e _ _ _ he =>
    rw [he]
    cases m <;> rfl

/-- The first claim that the host has not looked at: whoever has ended before it had no failure. -/
theorem Attended.first {rest : List Nat} (ha : h.Attended es) (hc : h.Crewed ps es)
    (he : h.ended = i :: rest) : ∃ seen later, es = seen ++
      (.claim i, h.session.claims[i]?.bind Claim.failure?) :: later ∧ (∀ e ∈ seen, e.2 = none) ∧
      later.filterMap (fun e => e.1.claim?) = rest := by
  obtain ⟨seen, tail, rfl, hs, hr⟩ := ha
  rw [he] at hr
  obtain ⟨skipped, ⟨m, failure⟩, later, rfl, hn, hm, hl⟩ := List.filterMap_eq_cons_iff.mp hr
  have hmem : ∀ e ∈ skipped ++ (m, failure) :: later, h.result? e.1 = some e.2 := fun e he =>
    (hc.ended e.1 e.2).mp (List.mem_append_right _ he)
  -- only feeders are passed over, and they have no failures
  have hskip : ∀ e ∈ skipped, e.2 = none := by
    rintro ⟨n, f⟩ he
    have hres := hmem _ (List.mem_append_left _ he)
    cases n with
    | claim j => cases hn _ he
    | feeder j =>
      obtain ⟨y, -, hy⟩ := Option.bind_eq_some_iff.mp hres
      unfold Feeder.result? at hy
      split at hy
      · cases hy
        rfl
      · cases hy
  cases m with
  | feeder j => cases hm
  | claim j =>
    cases hm
    have hres := hmem _ (List.mem_append_right _ List.mem_cons_self)
    obtain ⟨y, hy, hyr⟩ := Option.bind_eq_some_iff.mp hres
    have hfail : h.session.claims[i]?.bind Claim.failure? = failure := by
      rw [hy]
      exact Claim.failure_of_result hyr
    rw [hfail]
    exact ⟨seen ++ skipped, later, by simp, fun e he => (List.mem_append.mp he).elim (hs e) (hskip e), hl⟩

end Hosted

end Sluice
