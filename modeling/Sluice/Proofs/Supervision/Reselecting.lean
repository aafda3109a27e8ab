import Sluice.Proofs.Relay.Requests
import Sluice.Proofs.Supervision.Refreshing
/-!
# Selecting topics again

Topics are selected in the order of the catalog, and lists of topics are compared with their order.
A topic that is created comes last in the catalog, so what becomes of the order is told by the topics
that were created and deleted in between: `Passage` is a run together with these.

* `TopicChange.kept_prefix`: topics that are never deleted stay in front, in their order.
* `Reachable.topics_nodup`: no two topics have the same name.
* `Reachable.swaps_for_new_list`: a refresh swaps groups if the list is a new one. It is not if it has
  the same names and none of them was deleted.
* `recreated_topic_swaps`: it is if the first of two topics was deleted and created again.
-/
namespace Sluice

/-! ## Lists of names -/

namespace TopicChange

theorem nodup_apply {names : List String} (h : names.Nodup) (c : TopicChange) :
    (apply names c).Nodup := by
  cases c with
  | delete name => exact h.filter _
  | create name =>
    show (if names.contains name then names else names ++ [name]).Nodup
    split
    · exact h
    · next hn =>
      refine List.nodup_append.mpr ⟨h, by simp, fun a ha b hb e => hn ?_⟩
      rw [List.mem_singleton.mp hb] at e
      exact List.contains_iff_mem.mpr (e ▸ ha)

theorem nodup_foldl {names : List String} (h : names.Nodup) (cs : List TopicChange) :
    (cs.foldl apply names).Nodup := by
  induction cs generalizing names with
  | nil => exact h
  | cons c cs ih => exact ih (nodup_apply h c)

/-- Topics that are never deleted stay in front, in their order. -/
theorem kept_prefix (cs : List TopicChange) (names : List String) :
    names.filter (fun n => .delete n ∉ cs) <+: cs.foldl apply names := by
  induction cs generalizing names with
  | nil =>
    rw [List.filter_eq_self.mpr (by simp)]
    exact List.prefix_rfl
  | cons c cs ih =>
    -- what is kept throughout is kept by the first change
    have hc : names.filter (fun n => .delete n ∉ c :: cs) <+:
        (apply names c).filter fun n => .delete n ∉ cs := by
      cases c with
      | create name =>
        show _ <+: (if names.contains name then names else names ++ [name]).filter _
        simp only [List.mem_cons, reduceCtorEq, false_or]
        split
        · exact List.prefix_rfl
        · rw [List.filter_append]
          exact List.prefix_append _ _
      | delete name =>
        show _ <+: (names.filter fun n => n ≠ name).filter _
        simp [List.filter_filter, Bool.and_comm]
    exact hc.trans (ih _)

end TopicChange

/-! ## Runs -/

namespace Relay
variable {settings : Settings} {w v u : Relay} {s : Supervisor} {cs : List TopicChange}

/-- A run from one relay to another, and the topics it creates and deletes. -/
inductive Passage (w : Relay) : List TopicChange → Relay → Prop where
  | nothing : Passage w [] w
  | event {cs : List TopicChange} {v : Relay} (e : Event) : Passage w cs v →
      Passage w (cs ++ e.topicChanges) (v.apply e)
  | move {cs : List TopicChange} {v u : Relay} (t : Task) : Passage w cs v → v.step t = some u →
      Passage w cs u

theorem Passage.topics (h : w.Passage cs v) :
    v.broker.topics = cs.foldl TopicChange.apply w.broker.topics := by
  induction h with
  | nothing => rfl
  | event e _ ih => rw [topics_of_event, ih, List.foldl_append]
  | move t _ ht ih => exact (topics_of_step ht).trans ih

theorem Reachable.passage (h : Reachable settings w) (hp : w.Passage cs v) :
    Reachable settings v := by
  induction hp with
  | nothing => exact h
  | event e _ ih => exact ih.event e
  | move t _ ht ih => exact ih.move t ht

/-- No two topics have the same name. -/
theorem Reachable.topics_nodup (h : Reachable settings w) : w.broker.topics.Nodup := by
  induction h with
  | start => exact List.nodup_nil
  | @event w e _ ih =>
    rw [topics_of_event]
    exact TopicChange.nodup_foldl ih e.topicChanges
  | move t _ ht ih =>
    rw [topics_of_step ht]
    exact ih

/-- What a second look at the topics leads to, when the present group is for the list of the first and
the topics have changed by `cs` since. -/
structure Reselected (cs : List TopicChange) (s : Supervisor) (second : List String) (w : Relay) :
    Prop where
  /-- Topics that were never deleted stay in front, in their order. -/
  front : s.topics.filter (fun n => .delete n ∉ cs) <+: second
  /-- With the same names the list is the same, if none of them was deleted. -/
  same : (∀ n, n ∈ second ↔ n ∈ s.topics) → (∀ n ∈ s.topics, .delete n ∉ cs) → second = s.topics
  /-- For the same list no group is joined and none is left. -/
  kept : second = s.topics → ∃ v, w.refresh s = (.ok false, v) ∧ v.supervisor = some s ∧
    v.broker.groups = w.broker.groups ∧
    v.broker.calls.groupConnects = w.broker.calls.groupConnects ∧
    v.broker.calls.groupCloses = w.broker.calls.groupCloses ∧ v.books = w.books
  /-- For another list groups are swapped, unless the supervisor has been told to end or the new group
  cannot be joined. -/
  swaps : (w.refresh s).1 = .ok true ↔
    second ≠ s.topics ∧ w.broker.faults.connect = 0 ∧ w.isStopped = false

/-- For the list that the group has already, all that a refresh does is to look. -/
theorem refresh_of_same (hg : s.group.isSome = true)
    (hsel : (w.broker.select s.settings.pattern).1 = .ok s.topics) :
    w.refresh s = (.ok false, w.looked s) := by
  rw [← refreshAmid_alone]
  unfold refreshAmid
  rw [hsel]
  exact if_pos ⟨hg, rfl⟩

/-- With nobody else about a refresh swaps groups for a new list, if it can. -/
theorem refresh_swaps {topics : List String} (hg : s.group.isSome = true)
    (hsel : (w.broker.select s.settings.pattern).1 = .ok topics) :
    (w.refresh s).1 = .ok true ↔
      topics ≠ s.topics ∧ w.broker.faults.connect = 0 ∧ w.isStopped = false := by
  have hjoin : (∃ g, (w.looked s).broker.join.1 = .ok g) ↔ w.broker.faults.connect = 0 := by
    rw [Broker.join_ok_iff, ← Broker.connect_select w.broker s.settings.pattern]
    rfl
  rw [← refreshAmid_alone, refreshAmid_ok, ← hjoin]
  constructor
  · rintro ⟨topics', g, hsel', hne, hj, hst⟩
    cases hsel.symm.trans hsel'
    exact ⟨fun e => hne.resolve_left (Option.isSome_iff_ne_none.mp hg) e.symm, ⟨g, hj⟩, hst⟩
  · rintro ⟨hne, ⟨g, hj⟩, hst⟩
    exact ⟨topics, g, hsel, .inr fun e => hne e.symm, hj, hst⟩

/-- **A refresh swaps groups if the list of topics is a new one.** Let the present group be for the
list that a first look showed. Whatever happens until a second look, a refresh then joins no group and
leaves none if the list is the same, and it is the same if it has the same names and none of them was
deleted in between. -/
theorem Reachable.swaps_for_new_list {first second : List String} (h : Reachable settings w)
    (hp : w.Passage cs v) (hv : v.supervisor = some s) (hg : s.group.isSome = true)
    (hfirst : (w.broker.select s.settings.pattern).1 = .ok first) (ht : s.topics = first)
    (hsecond : (v.broker.select s.settings.pattern).1 = .ok second) :
    v.Reselected cs s second := by
  obtain ⟨hgroups, -, hcalls, hlist⟩ := Broker.select_same v.broker s.settings.pattern
  have hnow := hlist second hsecond
  have hthen := (Broker.select_same w.broker s.settings.pattern).2.2.2 first hfirst
  rw [hp.topics] at hnow
  rw [← ht] at hthen
  have hfront : s.topics.filter (fun n => .delete n ∉ cs) <+: second := by
    have hkept := (TopicChange.kept_prefix cs w.broker.topics).filter s.settings.pattern.isMatch
    rw [List.filter_filter] at hkept
    rw [hthen, hnow, Pattern.select, List.filter_filter, Pattern.select]
    simpa only [Bool.and_comm] using hkept
  refine ⟨hfront, fun hsame hkept => ?_, fun he => ?_, refresh_swaps hg hsecond⟩
  · have hall : s.topics.filter (fun n => .delete n ∉ cs) = s.topics :=
      List.filter_eq_self.mpr fun n hn => by simpa using hkept n hn
    rw [hall] at hfront
    refine eq_of_prefix_of_nodup hfront ?_ fun n => (hsame n).mp
    rw [hlist second hsecond]
    exact (h.passage hp).topics_nodup.filter _
  · rw [he] at hsecond
    exact ⟨_, refresh_of_same hg hsecond, hv, hgroups,
      (congrArg CallCounts.groupConnects hcalls).trans rfl,
      (congrArg CallCounts.groupCloses hcalls).trans rfl, rfl⟩

/-- Between two looks a third topic is created and deleted again: the group stays. -/
theorem Reachable.swaps_for_new_list_passing : ∃ w v s, Reachable plainSettings w ∧
    w.Passage [.create "c", .delete "c"] v ∧ v.supervisor = some s ∧ s.topics = ["a", "b"] ∧
    (v.broker.select s.settings.pattern).1 = .ok ["a", "b"] ∧
    v.Reselected [.create "c", .delete "c"] s ["a", "b"] ∧ (v.refresh s).1 = .ok false := by
  obtain ⟨⟨ms, w⟩, s, hw, hs, hg, hfirst, ht, hsecond⟩ : ∃ x s, (empty.start plainSettings).replay
      [.inl (.createTopic "a" 1), .inl (.createTopic "b" 1), .inr .loop] = some x ∧
      ((x.2.apply (.createTopic "c" 1)).apply (.deleteTopic "c")).supervisor = some s ∧
      s.group.isSome = true ∧ (x.2.broker.select s.settings.pattern).1 = .ok ["a", "b"] ∧
      s.topics = ["a", "b"] ∧ (((x.2.apply (.createTopic "c" 1)).apply
        (.deleteTopic "c")).broker.select s.settings.pattern).1 = .ok ["a", "b"] :=
    ⟨_, _, rfl, rfl, rfl, rfl, rfl, rfl⟩
  have h := Reachable.start.replay hw
  have hp : w.Passage [.create "c", .delete "c"]
      ((w.apply (.createTopic "c" 1)).apply (.deleteTopic "c")) :=
    (Passage.nothing.event (.createTopic "c" 1)).event (.deleteTopic "c")
  have hre := h.swaps_for_new_list hp hs hg hfirst ht hsecond
  obtain ⟨u, hu, -⟩ := hre.kept ht.symm
  exact ⟨w, _, s, h, hp, hs, ht, hsecond, hre, congrArg Prod.fst hu⟩

/-- **The same topics in another order.** Of two topics the first is deleted and created again. The
names are the same, but the list has them the other way round, and the groups are swapped. They are
also swapped though no topic has changed since the look before, if no group could be joined then. -/
theorem recreated_topic_swaps :
    (∃ w v u s, Reachable plainSettings w ∧ w.Passage [.delete "a", .create "a"] v ∧
      v.supervisor = some s ∧ s.group = some 0 ∧
      (w.broker.select s.settings.pattern).1 = .ok ["a", "b"] ∧ s.topics = ["a", "b"] ∧
      (v.broker.select s.settings.pattern).1 = .ok ["b", "a"] ∧ v.refresh s = (.ok true, u) ∧
      u.HasLeft 0 ∧ u.IsOpen 1 ∧ s.generation = 1 ∧
      u.supervisor.map Supervisor.generation = some 2) ∧
    ∃ w v u s, Reachable plainSettings w ∧ w.Passage [] v ∧ v.supervisor = some s ∧
      s.group = some 0 ∧ (w.broker.select s.settings.pattern).1 = .ok ["a"] ∧
      (v.broker.select s.settings.pattern).1 = .ok ["a"] ∧ v.refresh s = (.ok true, u) := by
  constructor
  · obtain ⟨⟨ms, w⟩, s, u, hw, hs, hg, hfirst, ht, hsecond, hu, hleft, hopen, hgen, hgen'⟩ :
        ∃ x s u, (empty.start plainSettings).replay
          [.inl (.createTopic "a" 1), .inl (.createTopic "b" 1), .inr .loop] = some x ∧
        ((x.2.apply (.deleteTopic "a")).apply (.createTopic "a" 1)).supervisor = some s ∧
        s.group = some 0 ∧ (x.2.broker.select s.settings.pattern).1 = .ok ["a", "b"] ∧
        s.topics = ["a", "b"] ∧ (((x.2.apply (.deleteTopic "a")).apply
          (.createTopic "a" 1)).broker.select s.settings.pattern).1 = .ok ["b", "a"] ∧
        ((x.2.apply (.deleteTopic "a")).apply (.createTopic "a" 1)).refresh s = (.ok true, u) ∧
        u.HasLeft 0 ∧ u.IsOpen 1 ∧ s.generation = 1 ∧
        u.supervisor.map Supervisor.generation = some 2 :=
      ⟨_, _, _, rfl, rfl, rfl, rfl, rfl, rfl, rfl, ⟨_, rfl, rfl⟩, ⟨_, rfl, rfl⟩, rfl, rfl⟩
    exact ⟨w, _, u, s, Reachable.start.replay hw,
      (Passage.nothing.event (.deleteTopic "a")).event (.createTopic "a" 1), hs, hg, hfirst, ht,
      hsecond, hu, hleft, hopen, hgen, hgen'⟩
  · obtain ⟨⟨ms, w⟩, s, u, hw, hs, hg, hfirst, hsecond, hu⟩ :
        ∃ x s u, (empty.start plainSettings).replay
          [.inr .loop, .inl (.createTopic "a" 1), .inl (.script ⟨0, 1, 0, 0⟩)] = some x ∧
        (x.2.apply .refresh).supervisor = some s ∧ s.group = some 0 ∧
        (x.2.broker.select s.settings.pattern).1 = .ok ["a"] ∧
        ((x.2.apply .refresh).broker.select s.settings.pattern).1 = .ok ["a"] ∧
        (x.2.apply .refresh).refresh s = (.ok true, u) := ⟨_, _, _, rfl, rfl, rfl, rfl, rfl, rfl⟩
    exact ⟨w, _, u, s, Reachable.start.replay hw, Passage.nothing.event .refresh, hs, hg, hfirst,
      hsecond, hu⟩

end Relay
end Sluice
