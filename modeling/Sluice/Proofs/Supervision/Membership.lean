import Sluice.Proofs.Supervision.Rest
/-!
# No group is leaked or closed twice

Groups are joined in one place and left in three: by the refresh that replaces one, by the refresh
that comes too late, and by the consume loop as it ends. Together these leave every group once, and
the membership is always the one that the last refresh has installed.

* `Roster.Change.membership`: only installing a group changes the membership.
* `Chronicle.membership`: the membership is what the news says.
* `Chronicle.groups_balance`: what holds of groups and clients in every run.
* `crashed_loop_keeps_group`: a loop that cannot make room for a session never leaves its group.
-/
namespace Sluice

/-- The groups that were installed, with their topics, first to last. -/
def installs (ns : List Notice) : List (Nat × List String) :=
  ns.filterMap fun
    | .installed g topics => some (g, topics)
    | _ => none

theorem installs_append (ns ms : List Notice) :
    installs (ns ++ ms) = installs ns ++ installs ms := List.filterMap_append

namespace Roster
variable {R S : Roster} {s s' : Supervisor} {ns : List Notice}

theorem installs_succession (R : Roster) (s : Supervisor) (topics : List String) :
    installs (R.succession s topics) = [(R.groups.length, topics)] := by
  unfold succession
  rw [installs_append]
  have hm : installs (s.group.toList.flatMap fun old => (R.unread old).map (.missed old)) = [] := by
    rw [installs, List.filterMap_eq_nil_iff]
    intro n hn
    obtain ⟨old, -, hn⟩ := List.mem_flatMap.mp hn
    obtain ⟨e, -, rfl⟩ := List.mem_map.mp hn
    rfl
  rw [hm]
  rfl

/-- Only installing a group changes the membership, and tells so. -/
theorem Change.membership (hs : R.supervisor = some s) (hc : R.Change ns S)
    (hs' : S.supervisor = some s') :
    (∃ topics, ns = R.succession s topics ∧ S = R.install s topics ∧ R.stopped = false) ∨
      s'.group = s.group ∧ s'.topics = s.topics ∧ s'.generation = s.generation ∧
        installs ns = [] := by
  cases hc with
  | confirm | report | refuse | begin | leave | drain | giveUp | close | rebalance | stop | look
  | discard | forward | accept | call | wait | answer | abandon =>
    cases Option.some.inj (hs.symm.trans hs')
    exact .inr ⟨rfl, rfl, rfl, rfl⟩
  | install topics h0 hst =>
    cases Option.some.inj (hs.symm.trans h0)
    exact .inl ⟨topics, rfl, rfl, hst⟩
  | turn p h0 | endLoop h0 | crash h0 | serve h0 | endForwarder h0 | follow h0 | endRefresher h0
  | postpone _ h0 | takeOver h0 | release h0 =>
    cases Option.some.inj (hs.symm.trans h0)
    cases hs'
    exact .inr ⟨rfl, rfl, rfl, rfl⟩

/-- A group that is closed stays closed. -/
theorem Change.stays_closed (hc : R.Change ns S) {g : Nat} (hg : R.closings[g]? = some true) :
    S.closings[g]? = some true := by
  have hlt := (List.getElem?_eq_some_iff.mp hg).1
  cases hc with
  | confirm | report | refuse | begin | leave | drain | giveUp | close | rebalance | stop | look
  | call | wait | answer | abandon | turn | crash | serve | endRefresher | postpone | takeOver
  | release => exact hg
  | discard =>
    rw [discard_closings, List.getElem?_append_left hlt]
    exact hg
  | install =>
    rw [install_entry, List.getElem?_append_left hlt, hg]
    split <;> rfl
  | @endLoop s₀ _ _ _ =>
    refine (leave?_entry R s₀.group g).trans ?_
    rw [hg]
    split <;> rfl
  | @endForwarder s₀ _ reading =>
    obtain ⟨groups, he, hcl⟩ := dropStream?_eq R reading
    rw [he]
    exact (congrArg (·[g]?) hcl).trans hg
  | @follow s₀ _ reading =>
    obtain ⟨groups, reading', he, hcl⟩ := follow_eq R s₀ reading
    rw [he]
    exact (congrArg (·[g]?) hcl).trans hg
  | @forward s₀ r e rest =>
    exact (congrArg (·[g]?) (closings_modifyGroup R r (f := fun x => { x with errors := rest })
      fun _ => rfl)).trans hg
  | accept e =>
    exact (congrArg (·[g]?) (closings_modifyGroup R (R.groups.length - 1)
      (f := fun x => { x with errors := x.errors ++ [e] }) fun _ => rfl)).trans hg

theorem Changes.stays_closed (hc : R.Changes ns S) {g : Nat} (hg : R.closings[g]? = some true) :
    S.closings[g]? = some true :=
  hc.holds (P := fun R => R.closings[g]? = some true) (fun hg hc => hc.stays_closed hg) hg

end Roster

namespace Relay
open Roster
variable {settings : Settings} {ns : List Notice} {w v : Relay}

/-- The membership is the one that the last refresh has installed. -/
theorem Chronicle.membership (h : Chronicle settings ns w) : ∃ s, w.supervisor = some s ∧
    s.settings = settings ∧ s.generation = (installs ns).length ∧
    s.group = (installs ns).getLast?.map Prod.fst ∧
    s.topics = ((installs ns).getLast?.map Prod.snd).getD [] := by
  refine h.holds (P := fun ns _ s => s.generation = (installs ns).length ∧
    s.group = (installs ns).getLast?.map Prod.fst ∧
    s.topics = ((installs ns).getLast?.map Prod.snd).getD []) (fun due => ⟨rfl, rfl, rfl⟩) ?_
  intro R S ns ms s s' ⟨hn, hg, ht⟩ hs _ hc hs'
  rw [installs_append]
  rcases hc.membership hs hs' with ⟨topics, rfl, rfl, -⟩ | ⟨h1, h2, h3, h4⟩
  · rw [(install_fields R s topics).1] at hs'
    cases hs'
    simp [installs_succession, Supervisor.install, hn]
  · rw [h1, h2, h3, h4, List.append_nil]
    exact ⟨hn, hg, ht⟩

/-- Group `g` was joined, and has been left. -/
def HasLeft (w : Relay) (g : Nat) : Prop := ∃ x, w.broker.groups[g]? = some x ∧ x.closed = true

theorem hasLeft_iff (w : Relay) (g : Nat) : w.HasLeft g ↔ w.roster.closings[g]? = some true := by
  unfold HasLeft closings roster
  simp

/-- As many groups are open as there are. -/
theorem open_groups {s : Supervisor} (he : Enrolled w.roster s) :
    w.broker.calls.groupConnects = w.broker.calls.groupCloses +
      if s.group.isSome = true ∧ s.loop ≠ .ended then 1 else 0 := by
  have hj : w.broker.calls.groupConnects = w.roster.closings.length := he.joined
  have hl : w.broker.calls.groupCloses = w.roster.closings.countP id := he.left
  rw [hj, hl]
  split
  · next hg =>
    obtain ⟨hsome, hne⟩ := hg
    obtain ⟨g, hg⟩ := Option.isSome_iff_exists.mp hsome
    have hopen := (he.open_ g).mpr ⟨hg, hne⟩
    -- Were the present group closed as well, all would be.
    have hall : (w.roster.closings.modify g fun _ => true).countP id =
        (w.roster.closings.modify g fun _ => true).length := by
      rw [List.countP_eq_length]
      intro b hb
      obtain ⟨j, hj⟩ := List.mem_iff_getElem?.mp hb
      by_cases hgj : g = j
      · subst hgj
        rw [List.getElem?_modify_eq, hopen] at hj
        cases hj
        rfl
      · rw [List.getElem?_modify_ne _ _ hgj] at hj
        cases b with
        | true => rfl
        | false =>
          have := ((he.open_ j).mp hj).1
          rw [hg] at this
          exact absurd (Option.some.inj this) hgj
    have hc := countP_modify id (fun _ => true) w.roster.closings hopen
    rw [hall, List.length_modify] at hc
    simpa using hc
  · next hg =>
    rw [Nat.add_zero, eq_comm, List.countP_eq_length]
    intro b hb
    obtain ⟨j, hj⟩ := List.mem_iff_getElem?.mp hb
    cases b with
    | true => rfl
    | false =>
      obtain ⟨h1, h2⟩ := (he.open_ j).mp hj
      exact absurd ⟨by rw [h1]; rfl, h2⟩ hg

/-- A group that is installed is the newest one, for the topics that match at that moment. -/
theorem installed_of_news {s : Supervisor} {news : List Notice} {g : Nat} {topics : List String}
    (hn : news = w.refreshed s ∨ installs news = []) (h : .installed g topics ∈ news) :
    g = w.broker.groups.length ∧ topics = s.settings.pattern.select w.broker.topics := by
  have hi : (g, topics) ∈ installs news := List.mem_filterMap.mpr ⟨_, h, rfl⟩
  rcases hn with rfl | hn
  · rcases refreshed_cases w s with hr | hr <;> rw [hr] at hi
    · rw [installs_succession, List.mem_singleton] at hi
      cases hi
      exact ⟨rfl, rfl⟩
    · cases hi
  · rw [hn] at hi
    cases hi

/-- **No group is leaked or closed twice.** In every run of a supervisor, whatever the order of its
tasks: as many connections to the group were made as there are groups, and as many closed as are
closed now; a group that is closed stays so. The generation is the number of groups installed, and
the swaps are those after the first. The membership is the group that was installed last, with its
topics; these are the topics that matched when it was installed. In a settled relay all groups are
closed but the present one, and that is open exactly until the end, provided that room can be made for
a session. Every client that looked up topics was closed. -/
theorem Chronicle.groups_balance (h : Chronicle settings ns w) : ∃ s, w.supervisor = some s ∧
    w.broker.calls.groupConnects = w.broker.groups.length ∧
    w.broker.calls.groupCloses = w.broker.groups.countP Group.closed ∧
    (∀ g, w.HasLeft g →
      (∀ e, (w.apply e).HasLeft g) ∧ ∀ t v, w.step t = some v → v.HasLeft g) ∧
    s.generation = (installs ns).length ∧
    w.books.metrics.swaps = s.generation - 1 ∧
    s.group = (installs ns).getLast?.map Prod.fst ∧
    s.topics = ((installs ns).getLast?.map Prod.snd).getD [] ∧
    (∀ g topics, ((∃ e, .installed g topics ∈ w.eventNotices e) ∨
        ∃ t, .installed g topics ∈ w.moveNotices t) →
      g = w.broker.groups.length ∧ topics = settings.pattern.select w.broker.topics) ∧
    (Pending.fits settings.maxUndelivered = true → w.Settled →
      w.broker.calls.groupConnects = w.broker.calls.groupCloses +
        if s.group.isSome = true ∧ w.isStopped = false then 1 else 0) ∧
    w.broker.calls.metadataConnects = w.broker.calls.metadataCloses := by
  obtain ⟨s, hw, hset, hgen, hgroup, htopics⟩ := h.membership
  obtain ⟨s', hw', -, he, -⟩ := h.reachable.kept
  cases Option.some.inj (hw.symm.trans hw')
  refine ⟨s, hw, ?_, ?_, fun g hg => ⟨fun e => ?_, fun t v hs => ?_⟩, hgen, he.swaps, hgroup, htopics,
    fun g topics hn => ?_, fun hfit hs => ?_, he.looked⟩
  · have := he.joined
    simpa [closings, roster] using this
  · refine he.left.trans ?_
    unfold closings
    rw [List.countP_map]
    rfl
  · rw [hasLeft_iff] at hg ⊢
    exact (changes_of_event h.reachable.enlisted hw e).stays_closed hg
  · rw [hasLeft_iff] at hg ⊢
    exact (changes_of_step hw hs).stays_closed hg
  · rw [← hset]
    rcases hn with ⟨e, hn⟩ | ⟨t, hn⟩
    · refine installed_of_news ?_ hn
      rcases news_of_event hw e with he | ⟨text, -, he⟩ | he <;> rw [he]
      · exact .inl rfl
      · exact .inr rfl
      · exact .inr rfl
    · refine installed_of_news ?_ hn
      rcases news_of_move hw t with ht | ⟨h, e, -, ht⟩ | ht <;> rw [ht]
      · exact .inl rfl
      · exact .inr rfl
      · exact .inr rfl
  · have hopen := open_groups he
    have hloop : s.loop ≠ .ended ↔ w.isStopped = false := by
      rcases h.reachable.loop_of_settled hs hw with ⟨hl, hst⟩ | ⟨-, hf⟩ | ⟨⟨m, hl⟩, hst⟩ |
        ⟨c, x, y, hl, hst, -⟩
      · simp [hl, hst]
      · rw [hfit] at hf
        cases hf
      · simp [hl, hst]
      · simp [hl, hst]
    rwa [if_congr (and_congr_right fun _ => hloop) rfl rfl] at hopen

/-- The topics change once, and then the supervisor ends: both groups are left. -/
theorem Chronicle.groups_balance_swapped : ∃ ns w s, Chronicle plainSettings ns w ∧ w.Settled ∧
    installs ns = [(0, []), (1, ["t"])] ∧ w.supervisor = some s ∧ s.generation = 2 ∧
    s.topics = ["t"] ∧ w.books.metrics.swaps = 1 ∧ w.broker.calls.groupConnects = 2 ∧
    w.broker.calls.groupCloses = w.broker.calls.groupConnects := by
  obtain ⟨⟨ns, w⟩, hr, hst, hi, hs, hc⟩ : ∃ x, (empty.start plainSettings).recount
      [.inr .loop, .inl (.createTopic "t" 1), .inl .refresh, .inl .cancel, .inr .loop,
        .inr .forwarder, .inr .refresher] = some x ∧ x.2.isStopped = true ∧
      installs x.1 = [(0, []), (1, ["t"])] ∧ x.2.isSettled = true ∧
      x.2.broker.calls.groupConnects = 2 := ⟨_, rfl, rfl, rfl, rfl, rfl⟩
  have h := Chronicle.start.recount hr
  have hs := settled_of_isSettled hs
  obtain ⟨s, hw, -, -, -, hg, hsw, -, ht, -, hb, -⟩ := groups_balance h
  have hb := hb (by decide) hs
  rw [List.nil_append, hi] at hg ht
  rw [hg] at hsw
  simp only [hst, Bool.true_eq_false, and_false, if_false, Nat.add_zero] at hb
  exact ⟨_, w, s, h, hs, hi, hw, hg, ht, hsw, hc, hb.symm⟩

/-- As many messages may wait as a window can have slots. -/
def vastSettings : Settings := { plainSettings with maxUndelivered := 2305843009213693951 }

/-- **A group that is never left.** The window of a session could be made, but not the room for its
messages: the consume loop crashes, and nobody leaves its group after the end. -/
theorem crashed_loop_keeps_group : ∃ w : Relay, Reachable vastSettings w ∧
    Window.fits vastSettings.maxUndelivered = true ∧ w.Settled ∧ w.isStopped = true ∧
    w.broker.calls.groupConnects = 1 ∧ w.broker.calls.groupCloses = 0 := by
  obtain ⟨⟨ms, w⟩, hw, hs, hst, hj, hl⟩ : ∃ x, (empty.start vastSettings).replay
      [.inl (.createTopic "t" 1), .inr .loop, .inr .loop, .inl .cancel, .inr .forwarder,
        .inr .refresher] = some x ∧ x.2.isSettled = true ∧ x.2.isStopped = true ∧
      x.2.broker.calls.groupConnects = 1 ∧ x.2.broker.calls.groupCloses = 0 :=
    ⟨_, rfl, rfl, rfl, rfl, rfl⟩
  exact ⟨w, Reachable.start.replay hw, by decide, settled_of_isSettled hs, hst, hj, hl⟩

end Relay
end Sluice
