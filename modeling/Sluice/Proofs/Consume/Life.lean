import Sluice.Proofs.Consume.Tokens
/-!
# The life of a consume call

What a call does is one story, however its tasks, handlers and surroundings act. A call that is
refused, or whose handler does not set the session up, has no session. Any other call starts one claim
and one feeder for each partition there is, tells the session to end for one reason, waits until all
claims and feeders have ended, has the handler clean up, once, and returns.

* `Hosts`: a call with its session. `Hosts.aside`, `Hosts.turn`: one step.
* `Stands`: how far the story has come. `Stands.step`: it goes on.
* `Saga.consume_life_cycle`: the whole story of a call that has ended.
-/
namespace Sluice.Relay
variable {h h' : Hosted} {ps : List Partition} {es fs : List Ending}
variable {w₀ w v u : Relay} {c : Nat} {x : ConsumeCall} {ds ns since : List Deed}

/-! ## One step -/

theorem endings_of_none (hn : w.hostedBy c = none) : endings c w v = [] := by
  unfold endings
  rw [hn]

/-- Who hosts a session has it for its own. -/
theorem hostedBy_eq (hx : w.calls[c]? = some x) (hk : w.sessions[x.session]? = some h)
    (hc : h.host = some c) : w.hostedBy c = some h := by
  simp [hostedBy, hx, hk, hc]

/-- A call that has not begun hosts no session. -/
theorem unhosted_of_fresh (hh : w.ground.Housed) (hw : ∀ x, w.calls[c]? = some x → x.phase = .fresh)
    (k : Nat) (h : Hosted) (hk : w.sessions[k]? = some h) : h.host ≠ some c := fun hc => by
  obtain ⟨-, x, hx, -, hp⟩ := hh.hosted k h c hk hc
  exact hp (hw x hx)

theorem hostedBy_eq_none (hn : ∀ (k : Nat) h, w.sessions[k]? = some h → h.host ≠ some c) :
    w.hostedBy c = none := by
  unfold hostedBy
  rw [Option.filter_eq_none_iff]
  intro h hk
  obtain ⟨x, -, hk⟩ := Option.bind_eq_some_iff.mp hk
  simpa using hn _ h hk

/-- Call `c`, which is `x`, hosts session `h`, with claims and feeders on these partitions, the ones
that there were when it began. These have ended, and it has done this since it began. -/
structure Hosts (c : Nat) (w₀ w : Relay) (x : ConsumeCall) (h : Hosted) (ps : List Partition)
    (es : List Ending) (since : List Deed) : Prop where
  call : w.calls[c]? = some x
  session : w.sessions[x.session]? = some h
  host : h.host = some c
  crew : h.Crewed ps es
  opening : Moment c w₀ [] (.setup none :: ps.map .claim) since w fun u =>
    ps = x.topics.flatMap u.broker.partitions

/-- A step beside the call: its session goes on. -/
theorem Hosts.aside (hs : Hosts c w₀ w x h ps es since) (ha : Acts c w [] v)
    (hb : w.ground.Aside c v.ground) : ∃ fs h', h.Onward fs h' ∧ endings c w v = fs ∧
      Hosts c w₀ v x h' ps (es ++ fs) (since ++ fs.map .ended) := by
  have hcall : v.calls[c]? = some x := by
    rcases hb.call with he | ⟨hn, -⟩
    · exact he.trans hs.call
    · cases hn.symm.trans hs.call
  obtain ⟨fs, h', hk, ho⟩ := hb.session _ h hs.session hs.host
  have hhost := ho.host.trans hs.host
  have hends : endings c w v = fs := by
    unfold endings
    rw [hostedBy_eq hs.call hs.session hs.host, hostedBy_eq hcall hk hhost]
    exact ho.crew.endings
  have hopen := hs.opening.next ha
  rw [hends, List.append_nil] at hopen
  exact ⟨fs, h', ho, hends, hcall, hk, hhost, hs.crew.onward ho, hopen⟩

/-- A step of the call itself: nobody ends. -/
theorem Hosts.turn {f : Hosted → Hosted} {p : ConsumeCall.Phase} {l : List Nat}
    (hs : Hosts c w₀ w x h ps es since) (ha : Acts c w ns v)
    (hg : v.ground = { (w.ground.modify x.session f).setCall c p with listed := l })
    (hf : h.Kept (f h)) :
    endings c w v = [] ∧ Hosts c w₀ v { x with phase := p } (f h) ps es (since ++ ns) := by
  have hcall := call_of_ground (G := { w.ground.modify x.session f with listed := l }) hg hs.call
  have hk := session_of_ground (G := { w.ground with listed := l }) hg hs.session
  have hhost := hf.host.trans hs.host
  have hends : endings c w v = [] := by
    unfold endings
    rw [hostedBy_eq hs.call hs.session hs.host, hostedBy_eq hcall hk hhost]
    exact Hosted.endings_of_same hf.result
  have hopen := hs.opening.next ha
  rw [hends] at hopen
  exact ⟨hends, hcall, hk, hhost, hs.crew.kept hf, hopen⟩

/-! ## The story -/

/-- Why call `x` returns this without a session at a moment, and what it has done before. -/
inductive Refuses (w : Relay) (x : ConsumeCall) : Option RelayError → List Deed → Prop where
  | closed : w.broker.isClosed x.group = true →
      Refuses w x (some .groupClosed) [.returned (some .groupClosed)]
  | failed : w.broker.isClosed x.group = false → w.broker.beginConsume.1 = false →
      Refuses w x (some (.consume "injected consume failure"))
        [.returned (some (.consume "injected consume failure"))]
  /-- There is no session to set up. -/
  | missing : w.broker.isClosed x.group = false → w.sessions[x.session]? = none →
      Refuses w x none [.returned none]
  /-- The handler does not set the session up. -/
  | unready (e : RelayError) : w.broker.isClosed x.group = false → w.broker.beginConsume.1 = true →
      Refuses w x (some e) [.setup (some e), .returned (some e)]

/-- Whether call `x`, whose claims and feeders have ended like this, has this reason to tell its session
to end. A closed group comes before the end of the session, and that before a failure. -/
def Reason.Holds (w : Relay) (x : ConsumeCall) (es : List Ending) : Reason → Prop
  | .closed => w.broker.isClosed x.group = true
  | .cancelled => w.broker.isClosed x.group = false ∧
      ∃ h, w.sessions[x.session]? = some h ∧ h.session.cancelled = true
  | .failed e => w.broker.isClosed x.group = false ∧
      (∃ h, w.sessions[x.session]? = some h ∧ h.session.cancelled = false) ∧
      es.findSome? Prod.snd = some e

/-- What a call has done up to the moment when it tells its session to end. -/
def opened (ps : List Partition) (es : List Ending) : List Deed :=
  .setup none :: ps.map .claim ++ es.map .ended

/-- How far a call has come that has told its session `h` to end for reason `r`, and what it has done
about it besides waiting. -/
inductive Closing (h : Hosted) (r : Reason) : ConsumeCall.Phase → List Deed → Prop where
  | leaving : Closing h r (.leaving r.failure?) []
  | cleaning : h.Over → Closing h r (.cleaning r.failure?) [.cleanup]
  | ended (answer : Option RelayError) : h.Over →
      (answer = none → h.session.stage = .closed ∧ h.session.confirmer = .ended) →
      Closing h r (.ended (r.failure?.or answer))
        [.cleanup, .cleaned answer, .returned (r.failure?.or answer)]

/-- How far call `c` has come, and what it has done. -/
inductive Stands (c : Nat) (w₀ w : Relay) : List Deed → Prop where
  | waiting : (∀ x, w.calls[c]? = some x → x.phase = .fresh) → Stands c w₀ w []
  | spared {x : ConsumeCall} {failure : Option RelayError} {ds : List Deed} : w.calls[c]? = some x →
      x.phase = .ended failure →
      (∀ (k : Nat) h, w.sessions[k]? = some h → h.host ≠ some c) →
      Moment c w₀ [] ds [] w (fun u => Refuses u x failure ds) → Stands c w₀ w ds
  | serving {x : ConsumeCall} {h : Hosted} {ps : List Partition} {es : List Ending} :
      x.phase = .serving → Hosts c w₀ w x h ps es (es.map .ended) → h.Attended es →
      Stands c w₀ w (opened ps es)
  | closing {x : ConsumeCall} {h : Hosted} {ps : List Partition} {es fs : List Ending} {r : Reason}
      {tail : List Deed} :
      Hosts c w₀ w x h ps (es ++ fs) (es.map .ended ++ .told r :: (fs.map .ended ++ tail)) →
      h.session.cancelled = true →
      Moment c w₀ (opened ps es) [.told r] (fs.map .ended ++ tail) w (fun u => r.Holds u x es) →
      Closing h r x.phase tail →
      Stands c w₀ w (opened ps es ++ .told r :: (fs.map .ended ++ tail))

theorem opened_append (ps : List Partition) (es fs : List Ending) :
    opened ps (es ++ fs) = opened ps es ++ fs.map .ended := by
  simp [opened]

/-- A step beside the call. -/
theorem Stands.aside (hs : Stands c w₀ w ds) (hh : w.ground.Housed) (ha : Acts c w [] v)
    (hb : w.ground.Aside c v.ground) :
    Stands c w₀ v (ds ++ ((endings c w v).map .ended ++ [])) := by
  cases hs with
  | waiting hf =>
    rw [endings_of_none (hostedBy_eq_none (unhosted_of_fresh hh hf))]
    refine .waiting fun x hx => ?_
    rcases hb.call with he | ⟨-, y, hy, hp⟩
    · exact hf x (he ▸ hx)
    · cases Option.some.inj (hx.symm.trans hy)
      exact hp
  | @spared x _ _ hx hp hn hm =>
    have hends := endings_of_none (v := v) (hostedBy_eq_none hn)
    have hm := hm.next ha
    rw [hends] at hm ⊢
    rw [show ds ++ (List.map Deed.ended [] ++ []) = ds by simp]
    refine .spared ?_ hp (fun k h' hk hc => ?_) hm
    · rcases hb.call with he | ⟨hnone, -⟩
      · exact he.trans hx
      · cases hnone.symm.trans hx
    · obtain ⟨h, hk, hc⟩ := hb.hosts k h' hk hc
      exact hn k h hk hc
  | @serving x h ps es hp hs hatt =>
    obtain ⟨fs, h', ho, hends, hs⟩ := hs.aside ha hb
    rw [hends, List.append_nil, ← opened_append]
    rw [← List.map_append] at hs
    exact .serving hp hs (hatt.onward ho)
  | @closing x h ps es fs r tail hs hc hm hcl =>
    obtain ⟨gs, h', ho, hends, hs⟩ := hs.aside ha hb
    have hm := hm.next ha
    rw [hends, List.append_nil] at hm ⊢
    -- after the cleanup has begun there is nobody left to end
    have hcl : Closing h' r x.phase tail ∧ (tail = [] ∨ gs = []) := by
      generalize x.phase = p at hcl
      cases hcl with
      | leaving => exact ⟨.leaving, .inl rfl⟩
      | cleaning hover =>
        obtain ⟨hg, hover⟩ := hover.onward ho
        exact ⟨.cleaning hover, .inr hg⟩
      | ended answer hover hdone =>
        obtain ⟨hg, hover⟩ := hover.onward ho
        exact ⟨.ended answer hover fun he =>
          ⟨ho.stage.trans (hdone he).1, ho.confirmer (hdone he).2⟩, .inr hg⟩
    have hmove : fs.map Deed.ended ++ tail ++ gs.map .ended = (fs ++ gs).map .ended ++ tail := by
      rcases hcl.2 with rfl | rfl <;> simp
    rw [hmove] at hm
    have hds : ∀ l : List Deed, l ++ .told r :: (fs.map .ended ++ tail) ++ gs.map .ended =
        l ++ .told r :: ((fs ++ gs).map .ended ++ tail) := fun l => by
      rw [← hmove]
      simp
    rw [hds, List.append_assoc] at hs
    rw [hds]
    exact .closing hs (ho.cancelled hc) hm hcl.1

/-- The call returns without a session. -/
theorem stands_refused {failure : Option RelayError} {l : List Nat} (hd : Saga c w₀ [] w)
    (hh : w.ground.Housed) (hx : w.calls[c]? = some x) (hp : x.phase = .fresh) (ha : Acts c w ns v)
    (hg : v.ground = { w.ground.setCall c (.ended failure) with listed := l })
    (hr : Refuses w x failure ns) :
    Stands c w₀ v ([] ++ ((endings c w v).map .ended ++ ns)) := by
  have hn := unhosted_of_fresh hh fun y hy => Option.some.inj (hx.symm.trans hy) ▸ hp
  rw [endings_of_none (hostedBy_eq_none hn)]
  refine .spared (call_of_ground (G := { w.ground with listed := l }) hg hx) rfl
    (fun k h hk => hn k h ?_) ⟨w, v, hd, ha, ?_, .here⟩
  · exact (congrArg (·[k]?) (congrArg Ground.sessions hg)).symm.trans hk
  · cases hr with
    | closed hc => exact .closed hc
    | failed hc hb => exact .failed hc hb
    | missing hc hk => exact .missing hc hk
    | unready e hc hb => exact .unready e hc hb

/-- The call sets its session up. -/
theorem stands_begun {s : Session} (hd : Saga c w₀ [] w) (hh : w.ground.Housed)
    (hx : w.calls[c]? = some x) (hp : x.phase = .fresh) (hk : w.sessions[x.session]? = some h)
    (hi : h.session.stage = .idle) (hs : s.claims = h.session.claims)
    (ha : Acts c w (.setup none :: (x.topics.flatMap w.broker.partitions).map .claim)
      (w.served c x s)) :
    Stands c w₀ (w.served c x s) ([] ++ ((endings c w (w.served c x s)).map .ended ++
      .setup none :: (x.topics.flatMap w.broker.partitions).map .claim)) := by
  have hn := unhosted_of_fresh hh fun y hy => Option.some.inj (hx.symm.trans hy) ▸ hp
  have hg := ground_served w c x s
  have hun : h.Unhosted := by
    refine hh.unhosted _ h hk ?_
    cases hc : h.host with
    | none => rfl
    | some d => exact absurd hi (hh.hosted _ h d hk hc).1
  rw [endings_of_none (hostedBy_eq_none hn)]
  have hlist : ∀ l : List Deed, [] ++ (List.map Deed.ended [] ++ l) = l := fun l => by simp
  have hopen : Deed.setup none :: (x.topics.flatMap w.broker.partitions).map .claim =
      opened (x.topics.flatMap w.broker.partitions) [] := by simp [opened]
  rw [hlist, hopen]
  exact .serving (x := { x with phase := .serving }) rfl
    ⟨call_of_ground hg hx, session_of_ground hg hk, rfl, Hosted.crewed_staffed (hs.trans hun.claims),
      w, _, hd, ha, rfl, .here⟩
    ⟨[], [], rfl, nofun, hun.ended.symm⟩

/-- The call tells its session to end. -/
theorem stands_told {r : Reason} {f : Hosted → Hosted} (hd : Saga c w₀ (opened ps es) w)
    (hs : Hosts c w₀ w x h ps es (es.map .ended)) (ha : Acts c w [.told r] v)
    (hg : v.ground = (w.ground.modify x.session f).setCall c (.leaving r.failure?))
    (hf : h.Kept (f h)) (hc : (f h).session.cancelled = true) (hr : r.Holds w x es) :
    Stands c w₀ v (opened ps es ++ ((endings c w v).map .ended ++ [.told r])) := by
  obtain ⟨hends, ht⟩ := hs.turn ha hg hf
  rw [hends]
  have ht : Hosts c w₀ v { x with phase := .leaving r.failure? } (f h) ps (es ++ [])
      (es.map .ended ++ .told r :: (List.map .ended [] ++ [])) := by simpa using ht
  exact .closing ht hc ⟨w, v, hd, ha, hr, .here⟩ .leaving

/-- The call goes on to end its session. -/
theorem stands_closing {r : Reason} {tail : List Deed} {p : ConsumeCall.Phase} {f : Hosted → Hosted}
    {l : List Nat}
    (hs : Hosts c w₀ w x h ps (es ++ fs) (es.map .ended ++ .told r :: (fs.map .ended ++ tail)))
    (ht : Moment c w₀ (opened ps es) [.told r] (fs.map .ended ++ tail) w fun u => r.Holds u x es)
    (ha : Acts c w ns v)
    (hg : v.ground = { (w.ground.modify x.session f).setCall c p with listed := l })
    (hf : h.Kept (f h)) (hc : (f h).session.cancelled = true)
    (hcl : Closing (f h) r p (tail ++ ns)) :
    Stands c w₀ v (opened ps es ++ .told r :: (fs.map .ended ++ tail) ++
      ((endings c w v).map .ended ++ ns)) := by
  have hmom := ht.next ha
  obtain ⟨hends, hturn⟩ := hs.turn ha hg hf
  rw [hends] at hmom ⊢
  have hlist : ∀ l : List Deed, l ++ .told r :: (fs.map .ended ++ tail) ++
      (List.map Deed.ended [] ++ ns) = l ++ .told r :: (fs.map .ended ++ (tail ++ ns)) := fun l => by
    simp
  rw [hlist]
  rw [show fs.map Deed.ended ++ tail ++ (List.map Deed.ended [] ++ ns) =
    fs.map .ended ++ (tail ++ ns) by simp] at hmom
  refine .closing (x := { x with phase := p }) ?_ hc hmom hcl
  rw [← hlist]
  exact hturn

/-- A handler is asked when a call begins, and when the session has been told to end. -/
theorem Answers.phase (hm : w.Answers c x ns v) :
    x.phase = .fresh ∨ ∃ failure, x.phase = .leaving failure ∨ x.phase = .cleaning failure := by
  cases hm with
  | unready _ hp => exact .inl hp
  | giveUp _ hp => exact .inr ⟨_, .inl hp⟩
  | abandon _ hp => exact .inr ⟨_, .inr hp⟩

/-- A call that has ended does nothing. -/
theorem Performs.unended (hm : w.Performs c x ns v) (failure : Option RelayError) :
    x.phase ≠ .ended failure := by
  intro hp
  cases hm with
  | refuse hq | fail _ hq | begin hq | close hq | cancel hq | look hq | abort hq | drain hq
  | finish hq => cases hp.symm.trans hq
  | answers hq => simpa [hp] using hq.phase

/-- A step of a call that has not begun. -/
theorem stands_of_fresh (hd : Saga c w₀ [] w) (hh : w.ground.Housed) (hx : w.calls[c]? = some x)
    (hf : x.phase = .fresh) (ha : Acts c w ns v) (hm : w.Performs c x ns v) :
    Stands c w₀ v ([] ++ ((endings c w v).map .ended ++ ns)) := by
  cases hm with
  | refuse _ hg => exact stands_refused hd hh hx hf ha rfl (.closed hg)
  | fail failure _ hg hr =>
    refine stands_refused hd hh hx hf ha rfl ?_
    rcases hr with ⟨hb, rfl⟩ | ⟨hk, rfl⟩
    · exact .failed hg hb
    · exact .missing hg hk
  | begin _ _ _ hk hi => exact stands_begun hd hh hx hf hk hi rfl ha
  | answers hm =>
    cases hm with
    | unready e _ hg hb => exact stands_refused hd hh hx hf ha rfl (.unready e hg hb)
    | giveUp _ hp | abandon _ hp => cases hf.symm.trans hp
  | close hp | cancel hp | look hp | abort hp | drain hp | finish hp => cases hf.symm.trans hp

/-- A step of a call that serves its session. -/
theorem stands_of_serving (hd : Saga c w₀ (opened ps es) w)
    (hs : Hosts c w₀ w x h ps es (es.map .ended)) (hatt : h.Attended es) (hf : x.phase = .serving)
    (ha : Acts c w ns v) (hm : w.Performs c x ns v) :
    Stands c w₀ v (opened ps es ++ ((endings c w v).map .ended ++ ns)) := by
  cases hm with
  | close _ hk hg =>
    exact stands_told (r := .closed) hd hs ha (ground_leaveCall w c x _) ⟨rfl, rfl, rfl⟩ rfl hg
  | cancel _ hk hg hc =>
    exact stands_told (r := .cancelled) hd hs ha (ground_leaveCall w c x _) ⟨rfl, rfl, rfl⟩ rfl
      ⟨hg, _, hk, hc⟩
  | @look _ i rest _ hk he hn =>
    cases Option.some.inj (hk.symm.trans hs.session)
    have hg := Ground.setCall_same (G := (w.modifyHosted x.session fun h =>
      { h with ended := rest }).ground) hs.call
    obtain ⟨hends, ht⟩ := hs.turn ha hg.symm ⟨rfl, rfl, rfl⟩
    have hatt : ({ h with ended := rest } : Hosted).Attended es := by
      obtain ⟨seen, later, rfl, hseen, hl⟩ := hatt.first hs.crew he
      refine ⟨seen ++ [(.claim i, _)], later, (List.append_cons ..), fun e he => ?_, hl⟩
      rcases List.mem_append.mp he with he | he
      · exact hseen e he
      · rw [List.mem_singleton.mp he, hn]
    have := Stands.serving (x := { x with phase := x.phase }) hf (by simpa using ht) hatt
    rw [hends]
    simpa using this
  | abort _ hk hg hc he hn =>
    cases Option.some.inj (hk.symm.trans hs.session)
    refine stands_told (r := .failed _) hd hs ha (ground_abort w c x _ _) ⟨rfl, rfl, rfl⟩ rfl
      ⟨hg, ⟨_, hk, hc⟩, ?_⟩
    obtain ⟨seen, later, rfl, hseen, -⟩ := hatt.first hs.crew he
    rw [List.findSome?_append, List.findSome?_eq_none_iff.mpr hseen, hn]
    rfl
  | refuse hp | fail _ hp | begin hp | drain hp | finish hp => cases hf.symm.trans hp
  | answers hm => simpa [hf] using hm.phase

/-- A step of a call that has told its session to end. -/
theorem stands_of_closing {r : Reason} {tail : List Deed}
    (hs : Hosts c w₀ w x h ps (es ++ fs) (es.map .ended ++ .told r :: (fs.map .ended ++ tail)))
    (hc : h.session.cancelled = true)
    (ht : Moment c w₀ (opened ps es) [.told r] (fs.map .ended ++ tail) w fun u => r.Holds u x es)
    (hcl : Closing h r x.phase tail) (ha : Acts c w ns v) (hm : w.Performs c x ns v) :
    Stands c w₀ v (opened ps es ++ .told r :: (fs.map .ended ++ tail) ++
      ((endings c w v).map .ended ++ ns)) := by
  have hid : ∀ p, (w.ground.unlist c).setCall c p =
      ((w.ground.modify x.session id).unlist c).setCall c p := fun p => by
    rw [Ground.modify_same (f := id) fun _ _ => rfl]
  have hor : ∀ e, some (r.failure?.getD e) = r.failure?.or (some e) := fun e => by
    cases r <;> rfl
  generalize hph : x.phase = p at hcl
  cases hcl with
  | leaving =>
    cases hm with
    | drain hp hk hf he =>
      cases Option.some.inj (hk.symm.trans hs.session)
      cases hph.symm.trans hp
      exact stands_closing hs ht ha rfl ⟨rfl, rfl, rfl⟩ hc (.cleaning (Hosted.over_of_ended hf he))
    | answers hm =>
      cases hm with
      | giveUp e hp hk hf he =>
        cases Option.some.inj (hk.symm.trans hs.session)
        cases hph.symm.trans hp
        refine stands_closing hs ht ha (hid _) ⟨rfl, rfl, rfl⟩ hc ?_
        rw [hor]
        exact .ended (some e) (Hosted.over_of_ended hf he) nofun
      | unready _ hp | abandon _ hp => cases hph.symm.trans hp
    | refuse hp | fail _ hp | begin hp | close hp | cancel hp | look hp | abort hp | finish hp =>
      cases hph.symm.trans hp
  | cleaning hover =>
    cases hm with
    | finish hp hk hd he =>
      cases Option.some.inj (hk.symm.trans hs.session)
      cases hph.symm.trans hp
      have hkept : h.Kept { h with session := { h.session with stage := .closed } } := ⟨rfl, rfl, rfl⟩
      have hend := Closing.ended (r := r) none (hkept.over hover) fun _ => ⟨rfl, he⟩
      rw [Option.or_none] at hend
      exact stands_closing hs ht ha rfl hkept hc hend
    | answers hm =>
      cases hm with
      | abandon e hp =>
        cases hph.symm.trans hp
        refine stands_closing hs ht ha (hid _) ⟨rfl, rfl, rfl⟩ hc ?_
        rw [hor]
        exact .ended (some e) hover nofun
      | unready _ hp | giveUp _ hp => cases hph.symm.trans hp
    | refuse hp | fail _ hp | begin hp | close hp | cancel hp | look hp | abort hp | drain hp =>
      cases hph.symm.trans hp
  | ended answer => exact absurd hph (hm.unended _)

/-- The story goes on. -/
theorem Stands.step (hs : Stands c w₀ w ds) (hd : Saga c w₀ ds w) (hh : w.ground.Housed)
    (ha : Acts c w ns v) : Stands c w₀ v (ds ++ ((endings c w v).map .ended ++ ns)) := by
  rcases ha.cases hh with ⟨rfl, hb⟩ | ⟨x, hx, hm⟩
  · exact hs.aside hh ha hb
  · cases hs with
    | waiting hw => exact stands_of_fresh hd hh hx (hw x hx) ha hm
    | spared hy hp =>
      cases Option.some.inj (hx.symm.trans hy)
      exact absurd hp (hm.unended _)
    | serving hp hs hatt =>
      cases Option.some.inj (hx.symm.trans hs.call)
      exact stands_of_serving hd hs hatt hp ha hm
    | closing hs hc ht hcl =>
      cases Option.some.inj (hx.symm.trans hs.call)
      exact stands_of_closing hs hc ht hcl ha hm

theorem Saga.stands (h : Saga c w₀ ds w) (h0 : Fresh w₀) : Stands c w₀ w ds := by
  induction h with
  | here =>
    have hc : w₀.calls = [] := by rcases h0 with rfl | ⟨settings, rfl⟩ <;> rfl
    exact .waiting (by simp [hc])
  | next hd ha ih => exact ih.step hd (hd.enlisted h0).toHoused ha

/-- The life of call `c`, which is `x` and has returned this: all that it has done. Either way the
broker does not keep its session token any more. -/
inductive Life (c : Nat) (w₀ w : Relay) (x : ConsumeCall) (failure : Option RelayError) :
    List Deed → Prop where
  /-- It has returned without a session: it hosts none, and its handler has not set one up. -/
  | refused {ds : List Deed} : Moment c w₀ [] ds [] w (fun u => Refuses u x failure ds) →
      (∀ (k : Nat) h, w.sessions[k]? = some h → h.host ≠ some c) → c ∉ w.listed →
      Life c w₀ w x failure ds
  /-- Its handler has set session `h` up. It has started a claim and a feeder for each partition that
  there was; some of them have ended; it has told the session to end for a reason that held at that
  moment; the others have ended; the handler has cleaned up, and it has returned. Every claim and every
  feeder of the session has ended, once, and the session has been told to end and is served no more.
  If the cleanup was done, the session is closed, and its confirmer has ended too. What the call returns
  is what goes with the reason, or else the answer of the cleanup. -/
  | served {h : Hosted} {ps : List Partition} {es fs : List Ending} {r : Reason}
      {answer : Option RelayError} :
      Hosts c w₀ w x h ps (es ++ fs) (es.map .ended ++ .told r :: (fs.map .ended ++
        [.cleanup, .cleaned answer, .returned failure])) →
      Moment c w₀ (opened ps es) [.told r] (fs.map .ended ++
        [.cleanup, .cleaned answer, .returned failure]) w (fun u => r.Holds u x es) →
      ((es ++ fs).map Prod.fst).Perm h.workers → h.Over →
      h.session.cancelled = true → w.isServed x.session = false → c ∉ w.listed →
      (answer = none → h.session.stage = .closed ∧ h.session.confirmer = .ended) →
      failure = r.failure?.or answer →
      Life c w₀ w x failure (opened ps es ++ .told r :: (fs.map .ended ++
        [.cleanup, .cleaned answer, .returned failure]))

/-- **The life cycle of a consume call.** In every run, whatever the order of tasks, whatever handlers
answer and whatever happens to groups, sessions, tokens and logs, a call that has ended has either
returned without a session, or done all of this, in this order and nothing else: it has had its session
set up, once; started one claim and one feeder for each partition of its topics that there was; told the
session to end, because the group was closed, or else because the session was cancelled, or else
because of the first claim that ended with a failure; had the session cleaned up, once, after every
claim and feeder had ended; had its session token taken off the broker's list; and returned the failure
of that reason, or if it has none, the answer of the cleanup. -/
theorem Saga.consume_life_cycle (h : Saga c w₀ ds w) (h0 : Fresh w₀) (hx : w.calls[c]? = some x)
    {failure : Option RelayError} (hp : x.phase = .ended failure) : Life c w₀ w x failure ds := by
  have hlist : c ∉ w.listed := (h.enlisted h0).returned hx hp
  cases h.stands h0 with
  | waiting hw => cases (hw x hx).symm.trans hp
  | spared hy hq hn hm =>
    cases Option.some.inj (hx.symm.trans hy)
    cases hq.symm.trans hp
    exact .refused hm hn hlist
  | serving hq hs =>
    cases Option.some.inj (hx.symm.trans hs.call)
    cases hq.symm.trans hp
  | closing hs hc ht hcl =>
    cases Option.some.inj (hx.symm.trans hs.call)
    rw [hp] at hcl
    cases hcl with
    | ended answer hover hdone =>
      refine .served hs ht (hs.crew.perm hover) hover hc ?_ hlist hdone rfl
      simp [isServed, hs.session, hc]

/-- Of two topics one exists, with two partitions. One claim fails, and so does the cleanup after it: the
call returns the failure of the claim. -/
theorem Saga.consume_life_cycle_failing : ∃ (ds : List Deed) (w : Relay) (x : ConsumeCall),
    Saga 0 empty ds w ∧ w.calls[0]? = some x ∧ x.phase = .ended (some (.consume "broken")) ∧
      ds = [.setup none, .claim ⟨"t", 0⟩, .claim ⟨"t", 1⟩,
        .ended (.claim 1, some (.consume "broken")), .told (.failed (.consume "broken")),
        .ended (.feeder 1, none), .ended (.claim 0, none), .ended (.feeder 0, none), .cleanup,
        .cleaned (some (.session "lost")), .returned (some (.consume "broken"))] ∧
      Life 0 empty w x (some (.consume "broken")) ds := by
  have h := (((Saga.here (c := 0) (w := empty)).next (.use (.event (.createTopic "t" 2)))).next
    (.use .join)).next (.use (.session plainSettings))
  replace h := h.next (.use (.consume 0 0 ["t", "u"] 5))
  replace h := h.next (.task (t := .consume 0) rfl)
  replace h := h.next (.settle (k := 0) (i := 1) (some (.consume "broken")) rfl rfl (by rfl))
  replace h := h.next (.task (t := .consume 0) rfl)
  replace h := h.next (.task (t := .feeder 0 0) rfl)
  replace h := h.next (.task (t := .feeder 0 1) rfl)
  replace h := h.next (.task (t := .feeder 0 1) rfl)
  replace h := h.next (.task (t := .claim 0 0) rfl)
  replace h := h.next (.task (t := .feeder 0 0) rfl)
  replace h := h.next (.task (t := .consume 0) rfl)
  replace h := h.next (.own rfl (.abandon (.session "lost") rfl))
  exact ⟨_, _, _, h, rfl, rfl, rfl, h.consume_life_cycle (.inl rfl) rfl rfl⟩

end Sluice.Relay
