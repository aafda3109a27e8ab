import Sluice.Proofs.Outlet.Moves
/-!
# Readers that run when they are woken

A reader can run if it has not run yet, if the stream was granted to it, or if it has the stream and
a result waits. `Awake` says that each of them has been woken, so no result is left lying because
nobody was told of it, also if the reader that was told is dropped before it has run.

* `Guarded.ended_of_rest`: at rest no reader waits while a result does.
* `InTurn.awake`: what runs in which whoever was woken runs keep.
-/
namespace Sluice.Outlet

variable {i j : Nat} {run : List Nat} {o p : Outlet} {w : Window} {r : Reader}

/-- The woken readers, of whom those in `run` run already. -/
structure Awake (run : List Nat) (o : Outlet) : Prop where
  fresh : ∀ {i}, o.readers[i]? = some .fresh → i ∈ run ++ o.line
  granted : ∀ {i}, i ∈ o.sink.stream.granted → i ∈ run ++ o.line
  reading : ∀ {i}, o.readers[i]? = some .reading → o.sink.deliveries.backlog ≠ 0 → i ∈ run ++ o.line

theorem awake_empty : Awake [] empty := ⟨nofun, nofun, nofun⟩

/-- Who can run. -/
theorem step_cases (hs : o.step i ≠ none) : o.readers[i]? = some .fresh ∨
    i ∈ o.sink.stream.granted ∨
    o.readers[i]? = some .reading ∧ o.sink.deliveries.backlog ≠ 0 := by
  unfold step at hs
  split at hs
  · next hr => exact .inl hr
  · refine .inr (.inl ?_)
    obtain ⟨p, hp⟩ := Option.ne_none_iff_exists'.mp hs
    obtain ⟨w, hw, -⟩ := Option.map_eq_some_iff.mp hp
    exact (Window.take_cases hw).1
  · next hr =>
    split at hs
    · exact absurd rfl hs
    · next hb => exact .inr (.inr ⟨hr, hb⟩)
  · exact absurd rfl hs

theorem step_of_fresh (hr : o.readers[i]? = some .fresh) : o.step i ≠ none := by
  unfold step
  rw [hr]
  rcases Window.acquire_cases o.sink.stream i with ⟨-, e⟩ | ⟨-, e⟩ <;> simp [e]

theorem Guarded.step_of_granted (h : o.Guarded) (hg : i ∈ o.sink.stream.granted) :
    o.step i ≠ none := by
  have hw := Window.take_isSome hg
  unfold step
  rw [(h.line i).mp (List.mem_append_left _ hg)]
  simpa [Option.isSome_iff_ne_none] using hw

theorem step_of_reading (hr : o.readers[i]? = some .reading) (hb : o.sink.deliveries.backlog ≠ 0) :
    o.step i ≠ none := by
  unfold step
  simp [hr, hb]

theorem Awake.woken (h : Awake run o) (hs : o.step i ≠ none) : i ∈ run ++ o.line := by
  rcases step_cases hs with hr | hg | ⟨hr, hb⟩
  · exact h.fresh hr
  · exact h.granted hg
  · exact h.reading hr hb

/-! ## At rest -/

/-- **At rest no reader waits while a result does.** -/
theorem Guarded.ended_of_rest (h : o.Guarded) (hs : ∀ i, o.step i = none)
    (hb : o.sink.deliveries.backlog ≠ 0) (hr : o.readers[i]? = some r) : r.ended = true := by
  have hfresh : ∀ j : Nat, o.readers[j]? ≠ some .fresh := fun j hj => step_of_fresh hj (hs j)
  have hreading : ∀ j : Nat, o.readers[j]? ≠ some .reading := fun j hj =>
    step_of_reading hj hb (hs j)
  have hgranted : o.sink.stream.granted = [] :=
    List.eq_nil_iff_forall_not_mem.mpr fun j hj => h.step_of_granted hj (hs j)
  have hheld : o.sink.stream.held = 0 := by
    rw [h.held]
    refine List.count_eq_zero.mpr fun hm => ?_
    obtain ⟨j, hj, e⟩ := List.getElem_of_mem hm
    exact hreading j (by rw [List.getElem?_eq_getElem hj, e])
  -- nobody has the stream, so it is free and nobody waits for it
  have hwaiting : o.sink.stream.waiting = [] := by
    refine h.stream.calm.resolve_left fun hf => ?_
    have := h.stream.total
    unfold Window.total at this
    rw [hheld, hgranted, hf] at this
    cases this
  cases r with
  | fresh => exact absurd hr (hfresh i)
  | reading => exact absurd hr (hreading i)
  | queued =>
    have hm := (h.line i).mpr hr
    unfold Window.line at hm
    rw [hgranted, hwaiting] at hm
    exact absurd hm List.not_mem_nil
  | got => rfl
  | abandoned => rfl

/-! ## What one step keeps -/

/-- Who was granted the stream after it was passed on. -/
theorem granted_pass (w : Window) (hj : j ∈ w.pass.2.granted) : j ∈ w.granted ∨ w.pass.1 = some j := by
  unfold Window.pass at *
  cases hw : w.waiting with
  | nil =>
    simp only [hw] at hj
    exact .inl hj
  | cons k rest =>
    simp only [hw, List.mem_append, List.mem_singleton] at hj ⊢
    exact hj.imp id fun e => congrArg some e.symm

theorem granted_release (w : Window) (hj : j ∈ w.release.2.granted) :
    j ∈ w.granted ∨ w.release.1 = some j := by
  unfold Window.release at *
  split at hj
  · exact .inl hj
  · next hh =>
    rw [if_neg hh]
    exact granted_pass _ hj

theorem granted_leave (w : Window) (hj : j ∈ (w.leave i).2.granted) :
    j ∈ w.granted ∨ (w.leave i).1 = some j := by
  unfold Window.leave at *
  split at hj
  · next hi =>
    rw [if_pos hi]
    exact (granted_pass _ hj).imp List.mem_of_mem_erase id
  · exact .inl hj

theorem mem_wokenBy {line : List Nat} {who : Option Nat} :
    j ∈ Gate.wokenBy line who ↔ who = some j ∨ j ∈ line := by
  cases who with
  | none => simp [Gate.wokenBy]
  | some k =>
    unfold Gate.wokenBy
    rw [Schedule.mem_wake_iff]
    exact or_congr_left ⟨fun e => e ▸ rfl, fun e => (Option.some.inj e).symm⟩

/-- A step after which all who can run could run before, are woken or run already. -/
theorem Awake.of_step (h : Awake run o)
    (hl : ∀ {j}, j ∈ o.line → j ∈ p.line)
    (hf : ∀ {j}, p.readers[j]? = some .fresh → j ∈ run ++ p.line ∨ o.readers[j]? = some .fresh)
    (hg : ∀ {j}, j ∈ p.sink.stream.granted → j ∈ run ++ p.line ∨ j ∈ o.sink.stream.granted)
    (hr : ∀ {j}, p.readers[j]? = some .reading → p.sink.deliveries.backlog ≠ 0 →
      j ∈ run ++ p.line ∨ o.readers[j]? = some .reading ∧ o.sink.deliveries.backlog ≠ 0) :
    Awake run p := by
  have hmono : ∀ {j}, j ∈ run ++ o.line → j ∈ run ++ p.line := fun hj =>
    List.mem_append.mpr ((List.mem_append.mp hj).imp id hl)
  exact ⟨fun hj => (hf hj).elim id fun hj => hmono (h.fresh hj),
    fun hj => (hg hj).elim id fun hj => hmono (h.granted hj),
    fun hj hb => (hr hj hb).elim id fun ⟨hj, hb⟩ => hmono (h.reading hj hb)⟩

/-- Another reader's state is as it was. -/
theorem reader_of_set (hj : (o.setReader i r).readers[j]? = some s) (hne : s ≠ r) :
    o.readers[j]? = some s := by
  rw [reader_setReader] at hj
  split at hj
  · obtain ⟨_, -, e⟩ := Option.map_eq_some_iff.mp hj
    exact absurd e.symm hne
  · exact hj

/-- A reader that had the stream, or takes it, passes it on. -/
theorem Awake.pass (h : Awake run o) (hf : r ≠ .fresh) (hr : r ≠ .reading) : Awake run (o.pass i r) := by
  unfold Outlet.pass
  rw [wake_eq]
  refine h.of_step (fun hj => mem_wokenBy.mpr (.inr hj)) (fun hj => .inr ?_) (fun hj => ?_)
    (fun hj hb => .inr ⟨?_, hb⟩)
  · exact reader_of_set hj (Ne.symm hf)
  · exact (granted_release _ hj).symm.imp
      (fun e => List.mem_append_right _ (mem_wokenBy.mpr (.inl e))) id
  · exact reader_of_set hj (Ne.symm hr)

theorem Awake.leave (h : Awake run o) (hf : r ≠ .fresh) (hr : r ≠ .reading) :
    Awake run (o.leave i r) := by
  unfold Outlet.leave
  rw [wake_eq]
  refine h.of_step (fun hj => mem_wokenBy.mpr (.inr hj)) (fun hj => .inr ?_) (fun hj => ?_)
    (fun hj hb => .inr ⟨?_, hb⟩)
  · exact reader_of_set hj (Ne.symm hf)
  · exact (granted_leave _ hj).symm.imp
      (fun e => List.mem_append_right _ (mem_wokenBy.mpr (.inl e))) id
  · exact reader_of_set hj (Ne.symm hr)

/-- Getting the stream grants it to nobody. -/
theorem Holds.granted (h : o.Holds i w) (hj : j ∈ w.granted) : j ∈ o.sink.stream.granted := by
  cases h with
  | enter => exact hj
  | take => exact List.mem_of_mem_erase hj
  | keep => exact hj

theorem backlog_of_pop? {q q' : Queue Delivery} {d : Delivery} (h : q.pop? = some (d, q')) :
    q.backlog ≠ 0 := by
  rw [← Queue.length_waiting, Queue.waiting_of_pop? h]
  exact Nat.succ_ne_zero _

/-- The reader that runs makes its move. -/
theorem Awake.move (h : Awake [i] o) (hm : o.Move i p) : Awake [i] p := by
  have hself : ∀ {q : Outlet} {s t : Reader} {j : Nat}, (q.setReader i s).readers[j]? = some t →
      j = i ∨ q.readers[j]? = some t := by
    intro q s t j hj
    rw [reader_setReader] at hj
    split at hj
    · next e => exact .inl e.symm
    · exact .inr hj
  cases hm with
  | join hr hf =>
    refine h.of_step id (fun hj => .inr (reader_of_set hj nofun)) .inr
      fun hj hb => .inr ⟨reader_of_set hj nofun, hb⟩
  | wait hh =>
    refine h.of_step id (fun hj => .inr (reader_of_set hj nofun)) (fun hj => .inr (hh.granted hj))
      fun {j} hj hb => ?_
    exact (hself hj).imp (fun e : j = i => e ▸ List.mem_cons_self) fun hj => ⟨hj, hb⟩
  | got hh hq =>
    refine Awake.pass ?_ nofun nofun
    exact h.of_step id .inr (fun hj => .inr (hh.granted hj))
      fun hj _ => .inr ⟨hj, backlog_of_pop? hq⟩

/-- The reader that has the stream is found, for there is no other. -/
theorem findIdx?_of_count {l : List Reader} (hc : l.count .reading ≤ 1)
    (hj : l[j]? = some .reading) : l.findIdx? (· == .reading) = some j := by
  induction l generalizing j with
  | nil => cases hj
  | cons a l ih =>
    cases j with
    | zero =>
      cases hj
      rfl
    | succ j =>
      have hj : l[j]? = some .reading := by simpa using hj
      have hpos : 0 < l.count .reading := List.count_pos_iff.mpr (List.mem_of_getElem? hj)
      have ha : a ≠ .reading := by
        rintro rfl
        rw [List.count_cons_self] at hc
        omega
      rw [List.count_cons_of_ne ha] at hc
      rw [List.findIdx?_cons, if_neg (by simpa using ha), ih hc hj]
      rfl

/-- A result wakes the one reader that has the stream. -/
theorem Awake.confirm (h : Awake [] o) (hg : o.Guarded) (d : Delivery) : Awake [] (o.confirm d) := by
  unfold Outlet.confirm
  rw [wakeHolder_eq]
  refine h.of_step (fun hj => mem_wokenBy.mpr (.inr hj)) .inr .inr fun {j} hj _ => .inl ?_
  have hc : o.readers.count .reading ≤ 1 := hg.held ▸ hg.stream.held_le
  exact mem_wokenBy.mpr (.inl (findIdx?_of_count hc hj))

theorem Awake.outside {e : Event} (h : Awake [] o) (hg : o.Guarded) (ho : o.Outside e p) :
    Awake [] p := by
  have hmint : Awake [] o.mint := h.of_step id .inr .inr fun hj hb => .inr ⟨hj, hb⟩
  cases ho with
  | empty => exact hmint.confirm (hg.of_same rfl rfl) _
  | late => exact hmint.confirm (hg.of_same rfl rfl) _
  | confirm d => exact h.confirm hg d
  | batch | receive | closeOutput => exact h.of_step id .inr .inr fun hj hb => .inr ⟨hj, hb⟩
  | receiveNone | tryNone | abandonNone => exact h
  | tryNext _ hq => exact h.of_step id .inr .inr fun hj _ => .inr ⟨hj, backlog_of_pop? hq⟩
  | start =>
    refine h.of_step (fun hj => Schedule.mem_wake_iff.mpr (.inr hj)) (fun hj => ?_) .inr
      fun hj hb => .inr ⟨(concat_cases hj).resolve_right nofun, hb⟩
    exact (concat_cases hj).symm.imp (fun e => Schedule.mem_wake_iff.mpr (.inl e.1)) id
  | forget =>
    exact h.of_step id (fun hj => .inr (reader_of_set hj nofun)) .inr
      fun hj hb => .inr ⟨reader_of_set hj nofun, hb⟩
  | leave => exact h.leave nofun nofun
  | drop => exact h.pass nofun nofun

/-! ## Runs in turn -/

/-- The sinks that a new one can come to if the readers run in the order they were woken, each until
it can make no further move. -/
inductive InTurn : Outlet → Prop where
  | start : InTurn empty
  | event {o : Outlet} (e : Event) : InTurn o → InTurn (o.apply e)
  | turn {o p : Outlet} {i : Nat} (fuel : Nat) : InTurn o → o.next = some (i, p) →
      (Schedule.poll (step i) fuel p).step i = none → InTurn (Schedule.poll (step i) fuel p)

theorem Awake.next (h : Awake [] o) (hn : o.next = some (i, p)) : Awake [i] p := by
  obtain ⟨hl, hp⟩ := next_cases hn
  have hrun : [] ++ o.line = [i] ++ p.line := hl
  constructor
  · rw [← hrun, hp]; exact h.fresh
  · rw [← hrun, hp]; exact h.granted
  · rw [← hrun, hp]; exact h.reading

theorem Awake.poll (h : Awake [i] o) (hg : o.Guarded) (fuel : Nat) :
    Awake [i] (Schedule.poll (step i) fuel o) ∧ (Schedule.poll (step i) fuel o).Guarded :=
  Schedule.poll_holds (P := fun o => Awake [i] o ∧ o.Guarded)
    (fun ⟨h, hg⟩ hs => ⟨h.move (move_of_step hs), hg.move (move_of_step hs)⟩) fuel ⟨h, hg⟩

/-- A reader that can make no further move may sleep. -/
theorem Awake.rest (h : Awake [i] o) (hg : o.Guarded) (hs : o.step i = none) : Awake [] o := by
  have hdrop : ∀ {j}, j ∈ [i] ++ o.line → o.step j ≠ none → j ∈ [] ++ o.line := by
    intro j hj hm
    rcases List.mem_append.mp hj with hj | hj
    · rw [List.mem_singleton.mp hj] at hm
      exact absurd hs hm
    · exact hj
  exact ⟨fun hj => hdrop (h.fresh hj) (step_of_fresh hj),
    fun hj => hdrop (h.granted hj) (hg.step_of_granted hj),
    fun hj hb => hdrop (h.reading hj hb) (step_of_reading hj hb)⟩

theorem InTurn.awake (h : InTurn o) : Awake [] o ∧ o.Guarded := by
  induction h with
  | start => exact ⟨awake_empty, guarded_empty⟩
  | @event o e _ ih =>
    have ho := outside_of_apply o e
    exact ⟨ih.1.outside ih.2 ho, ih.2.outside ho⟩
  | turn fuel _ hn hs ih =>
    obtain ⟨hp, hg⟩ := (ih.1.next hn).poll (ih.2.next hn) fuel
    exact ⟨hp.rest hg hs, hg⟩

end Sluice.Outlet
