import Sluice.Proofs.Output.Confirmed
/-!
# What a device was asked for a group

A device with a journal does as the device without it, and remembers every call and its answer. So
the journal tells of every group what was asked of the device for it, and what it answered.

* `journal`: the calls that are made for groups; `journal_append`: for one group after the other.
* `Makes`: a run with a journal beside the run without, and what the calls tell of it.
* `writeRecords_makes`, `take_journal`: a group has its calls, unless the device was lost, and it was
  delivered exactly if the last of them is a flush that was done.
* `judged`: what every group of a sequence got, by the calls that were made for it.
-/
namespace Sluice

/-- A call to a device and its answer. -/
inductive Exchange where
  | write (bytes : List UInt8) (reply : WriteReply)
  | flush (reply : FlushReply)
  deriving DecidableEq, Repr

namespace Exchange

/-- The bytes that the device took. -/
def accepted : Exchange → List UInt8
  | write bytes (.taken n) => bytes.take n
  | _ => []

/-- Whether the device was lost. -/
def crashed : Exchange → Bool
  | write _ .crashed | flush .crashed => true
  | _ => false

end Exchange

/-- The device with a journal of its calls, first to last. -/
def Device.journaled {σ : Type} (d : Device σ) : Device (σ × List Exchange) where
  write s bytes :=
    ((d.write s.1 bytes).1, (d.write s.1 bytes).2, s.2 ++ [.write bytes (d.write s.1 bytes).1])
  flush s := ((d.flush s.1).1, (d.flush s.1).2, s.2 ++ [.flush (d.flush s.1).1])

namespace Output
variable {σ : Type} {d : Device σ}

/-- The output to a device whose journal is `js`. -/
def noted (o : Output σ) (js : List Exchange) : Output (σ × List Exchange) :=
  { o with state := (o.state, js) }

/-- The calls that are made for groups, first to last. -/
def journal (d : Device σ) (o : Output σ) (bs : List Batch) : List Exchange :=
  ((o.noted []).takeAll d.journaled bs).2.state.2

/-! ## One call after the other -/

/-- From the output `o` the device has done `x`, by the calls `cs`. With a journal it has done `y`. -/
structure Makes (o : Output σ) (cs : List Exchange) (x : Verdict × Output σ)
    (y : List Exchange → Verdict × Output (σ × List Exchange)) : Prop where
  noted : ∀ js, y js = (x.1, x.2.noted (js ++ cs))
  bytes : x.2.bytes = o.bytes ++ cs.flatMap Exchange.accepted
  crashed : x.1 = .crashed ↔ ∃ c ∈ cs, c.crashed = true
  /-- Without a call nothing can go wrong. -/
  silent : cs = [] → x.1 = .written
  alive : x.2.alive = o.alive

theorem Makes.next {o o' : Output σ} {cs cs' : List Exchange} {x : Verdict × Output σ}
    {y y' : List Exchange → Verdict × Output (σ × List Exchange)} (h : Makes o cs (.written, o') y)
    (h' : Makes o' cs' x y') : Makes o (cs ++ cs') x fun js => y' (js ++ cs) where
  noted js := by rw [h'.noted, List.append_assoc]
  bytes := by rw [h'.bytes, h.bytes, List.append_assoc, List.flatMap_append]
  crashed := by
    have calm : ¬∃ c ∈ cs, c.crashed = true := fun lost => nomatch h.crashed.mpr lost
    rw [h'.crashed]
    simp only [List.mem_append, or_and_right, exists_or, calm, false_or]
  silent none := h'.silent (List.append_eq_nil_iff.mp none).2
  alive := h'.alive.trans h.alive

/-- A call that takes no bytes. -/
theorem Makes.one {o : Output σ} {c : Exchange} {s : σ} {v : Verdict}
    {y : List Exchange → Verdict × Output (σ × List Exchange)}
    (noted : ∀ js, y js = (v, { o with state := (s, js ++ [c]) })) (none : c.accepted = [])
    (crashed : v = .crashed ↔ c.crashed = true) : Makes o [c] (v, { o with state := s }) y where
  noted := noted
  bytes := by simp [none]
  crashed := by simpa using crashed
  silent := nofun
  alive := rfl

theorem journaled_write {s s' : σ} {bytes : List UInt8} {r : WriteReply} (h : d.write s bytes = (r, s'))
    (js : List Exchange) : d.journaled.write (s, js) bytes = (r, s', js ++ [.write bytes r]) := by
  simp only [Device.journaled, h]

theorem journaled_flush {s s' : σ} {r : FlushReply} (h : d.flush s = (r, s')) (js : List Exchange) :
    d.journaled.flush (s, js) = (r, s', js ++ [.flush r]) := by
  simp only [Device.journaled, h]

theorem writeAll_makes (o : Output σ) (bytes : List UInt8) : ∃ cs,
    Makes o cs (o.writeAll d bytes) (fun js => (o.noted js).writeAll d.journaled bytes) ∧
      ∀ r, Exchange.flush r ∉ cs := by
  fun_induction writeAll d o bytes with
  | case1 o =>
    refine ⟨[], ⟨fun js => ?_, (List.append_nil _).symm, by simp, fun _ => rfl, rfl⟩, by simp⟩
    rw [writeAll, List.append_nil]
  | case2 o b rest s h =>
    refine ⟨[.write (b :: rest) (.taken 0)], .one (fun js => ?_) rfl (by simp [Exchange.crashed]),
      by simp⟩
    rw [writeAll, noted, journaled_write h]
  | case3 o b rest n s h ih =>
    obtain ⟨cs, more, noFlush⟩ := ih
    have first : Makes o [.write (b :: rest) (.taken (n + 1))]
        (.written, { o with state := s, bytes := o.bytes ++ b :: rest.take n })
        (fun js => (.written, { o with
          state := (s, js ++ [.write (b :: rest) (.taken (n + 1))])
          bytes := o.bytes ++ b :: rest.take n })) := {
      noted := fun js => rfl
      bytes := by simp [Exchange.accepted]
      crashed := by simp [Exchange.crashed]
      silent := by simp
      alive := rfl }
    have both := first.next more
    refine ⟨_, { both with noted := fun js => ?_ }, by simpa using noFlush⟩
    rw [← both.noted js, writeAll, noted, journaled_write h]
    rfl
  | case4 o b rest s h =>
    refine ⟨[.write (b :: rest) .failed], .one (fun js => ?_) rfl (by simp [Exchange.crashed]),
      by simp⟩
    rw [writeAll, noted, journaled_write h]
  | case5 o b rest s h =>
    refine ⟨[.write (b :: rest) .crashed], .one (fun js => ?_) rfl (by simp [Exchange.crashed]),
      by simp⟩
    rw [writeAll, noted, journaled_write h]

theorem flush_makes (o : Output σ) : ∃ r,
    Makes o [.flush r] (o.flush d) (fun js => (o.noted js).flush d.journaled) ∧
      ((o.flush d).1 = .written ↔ r = .done) := by
  obtain ⟨r, s, h⟩ : ∃ r s, d.flush o.state = (r, s) := ⟨_, _, rfl⟩
  refine ⟨r, ?_⟩
  have noted (js : List Exchange) : (o.noted js).flush d.journaled =
      ((o.flush d).1, { o with state := (s, js ++ [.flush r]) }) := by
    rw [flush, flush, Output.noted, journaled_flush h, h]
    cases r <;> rfl
  rw [flush, h] at noted ⊢
  cases r with
  | done | failed | crashed => exact ⟨.one noted rfl (by simp [Exchange.crashed]), by simp⟩

/-! ## A group -/

/-- Goes on if all was written. -/
def andThen {τ : Type} (x : Verdict × Output τ) (f : Output τ → Verdict × Output τ) :
    Verdict × Output τ :=
  match x with
  | (.written, o) => f o
  | bad => bad

theorem writeRecords_cons {τ : Type} {d : Device τ} (o : Output τ) (r : Record) (rs : List Record) :
    o.writeRecords d (r :: rs) = andThen (o.writeAll d (lineBytes r)) fun o =>
      andThen (o.writeAll d [newline]) fun o => o.writeRecords d rs := by
  rw [writeRecords]
  rfl

/-- There are calls, and all went well exactly if the last of them is a flush that was done. -/
def Flushes (cs : List Exchange) (v : Verdict) : Prop :=
  cs ≠ [] ∧ (v = .written ↔ cs.getLast? = some (.flush .done))

theorem Flushes.append {cs' : List Exchange} {v : Verdict} (h : Flushes cs' v) (cs : List Exchange) :
    Flushes (cs ++ cs') v := by
  obtain ⟨some, last⟩ := h
  refine ⟨List.append_ne_nil_of_right_ne_nil cs some, ?_⟩
  rw [last, List.getLast?_append, List.getLast?_eq_some_getLast some]
  rfl

/-- What fails before the flush, fails. -/
theorem flushes_of_failure {cs : List Exchange} {v : Verdict} (some : cs ≠ []) (bad : v ≠ .written)
    (noFlush : ∀ r, Exchange.flush r ∉ cs) : Flushes cs v :=
  ⟨some, fun good => absurd good bad, fun last => absurd (List.mem_of_getLast? last) (noFlush _)⟩

/-- Writes without a flush, and after their success what flushes. -/
theorem Makes.andThen {o : Output σ} {cs : List Exchange} {x : Verdict × Output σ}
    {y : List Exchange → Verdict × Output (σ × List Exchange)} (h : Makes o cs x y)
    (noFlush : ∀ r, Exchange.flush r ∉ cs) {f : Output σ → Verdict × Output σ}
    {g : Output (σ × List Exchange) → Verdict × Output (σ × List Exchange)}
    (rest : ∀ o', ∃ cs', Makes o' cs' (f o') (fun js => g (o'.noted js)) ∧ Flushes cs' (f o').1) :
    ∃ cs', Makes o cs' (Output.andThen x f) (fun js => Output.andThen (y js) g) ∧
      Flushes cs' (Output.andThen x f).1 := by
  obtain ⟨v, o'⟩ := x
  have along (js : List Exchange) : y js = (v, o'.noted (js ++ cs)) := h.noted js
  simp only [along]
  cases v with
  | written =>
    obtain ⟨cs', h', flushes⟩ := rest o'
    exact ⟨cs ++ cs', h.next h', flushes.append cs⟩
  | failed | crashed =>
    have some : cs ≠ [] := fun none => nomatch h.silent none
    exact ⟨cs, { h with noted := fun js => rfl }, flushes_of_failure some nofun noFlush⟩

theorem writeRecords_makes (o : Output σ) (rs : List Record) : ∃ cs,
    Makes o cs (o.writeRecords d rs) (fun js => (o.noted js).writeRecords d.journaled rs) ∧
      Flushes cs (o.writeRecords d rs).1 := by
  induction rs generalizing o with
  | nil =>
    obtain ⟨r, h, done⟩ := flush_makes (d := d) o
    simp only [writeRecords]
    exact ⟨[.flush r], h, by simp, by simpa using done⟩
  | cons r rs ih =>
    simp only [writeRecords_cons]
    obtain ⟨cs, line, noFlush⟩ := writeAll_makes (d := d) o (lineBytes r)
    refine line.andThen noFlush fun o1 => ?_
    obtain ⟨cs', ending, noFlush'⟩ := writeAll_makes (d := d) o1 [newline]
    exact ending.andThen noFlush' ih

theorem take_of_lost {o : Output σ} (h : o.alive = false) (b : Batch) :
    o.take d b = (⟨b.id, false⟩, o) := by
  rw [take, h]
  rfl

theorem take_of_alive {o o' : Output σ} (h : o.alive = true) {b : Batch} {v : Verdict}
    (hx : o.writeRecords d b.records = (v, o')) :
    o.take d b = (⟨b.id, v = .written⟩, { o' with alive := o'.alive && decide (v ≠ .crashed) }) := by
  rw [take, h, hx]
  cases v <;> simp

/-- From the output `o` a group has made the calls `cs`, and `x` is what came of it. -/
structure Attempt (o : Output σ) (cs : List Exchange) (x : Delivery × Output σ) : Prop where
  bytes : x.2.bytes = o.bytes ++ cs.flatMap Exchange.accepted
  /-- When the device was lost nothing is tried. -/
  lost : o.alive = false → cs = [] ∧ x.1.delivered = false
  /-- Else there are calls, and the last of them decides. -/
  tried : o.alive = true → cs ≠ [] ∧ (x.1.delivered = true ↔ cs.getLast? = some (.flush .done))
  /-- What was delivered has not lost the device. -/
  calm : x.1.delivered = true → ∀ c ∈ cs, c.crashed = false
  alive : x.2.alive = true ↔ o.alive = true ∧ ∀ c ∈ cs, c.crashed = false

theorem take_makes (d : Device σ) (o : Output σ) (b : Batch) : ∃ cs, Attempt o cs (o.take d b) ∧
    ∀ js, (o.noted js).take d.journaled b = ((o.take d b).1, (o.take d b).2.noted (js ++ cs)) := by
  cases halive : o.alive with
  | false =>
    rw [take_of_lost halive]
    refine ⟨[], by constructor <;> simp [halive], fun js => ?_⟩
    rw [take_of_lost (o := o.noted js) halive, List.append_nil]
  | true =>
    obtain ⟨cs, h, some, last⟩ := writeRecords_makes (d := d) o b.records
    obtain ⟨v, o', hx⟩ : ∃ v o', o.writeRecords d b.records = (v, o') := ⟨_, _, rfl⟩
    rw [hx] at h last
    have calm : v ≠ .crashed ↔ ∀ c ∈ cs, c.crashed = false := by
      rw [ne_eq, show v = .crashed ↔ _ from h.crashed]
      simp
    have kept : o'.alive = true := h.alive.trans halive
    rw [take_of_alive halive hx]
    refine ⟨cs, {
      bytes := h.bytes
      lost := fun lost => absurd (lost.symm.trans halive) (by decide)
      tried := fun _ => ⟨some, by simpa using last⟩
      calm := fun done => calm.mp (by simp [of_decide_eq_true done])
      alive := by simp [kept, halive, calm] }, fun js => ?_⟩
    rw [take_of_alive (o := o.noted js) halive (h.noted js)]
    rfl

/-! ## A sequence of groups -/

theorem take_journal (d : Device σ) (o : Output σ) (b : Batch) :
    Attempt o (journal d o [b]) (o.take d b) ∧ ∀ js, (o.noted js).take d.journaled b =
      ((o.take d b).1, (o.take d b).2.noted (js ++ journal d o [b])) := by
  obtain ⟨cs, h, noted⟩ := take_makes d o b
  have calls : journal d o [b] = cs := by
    rw [journal, takeAll, noted]
    rfl
  rw [calls]
  exact ⟨h, noted⟩

/-- With a journal groups have the same results and leave the same output. -/
theorem takeAll_noted (o : Output σ) (bs : List Batch) (js : List Exchange) :
    (o.noted js).takeAll d.journaled bs =
      ((o.takeAll d bs).1, (o.takeAll d bs).2.noted (js ++ journal d o bs)) := by
  suffices ∃ cs, ∀ js, (o.noted js).takeAll d.journaled bs =
      ((o.takeAll d bs).1, (o.takeAll d bs).2.noted (js ++ cs)) by
    obtain ⟨cs, h⟩ := this
    have calls : journal d o bs = cs := by
      rw [journal, h]
      rfl
    rw [calls, h]
  induction bs generalizing o with
  | nil => exact ⟨[], fun js => by rw [List.append_nil]; rfl⟩
  | cons b bs ih =>
    obtain ⟨cs, h⟩ := ih (o.take d b).2
    refine ⟨journal d o [b] ++ cs, fun js => ?_⟩
    simp only [takeAll, (take_journal d o b).2, h, List.append_assoc]

theorem journal_append (o : Output σ) (as bs : List Batch) :
    journal d o (as ++ bs) = journal d o as ++ journal d (o.takeAll d as).2 bs := by
  rw [journal, takeAll_append, takeAll_noted, takeAll_noted]
  rfl

/-- The device can be used as long as no call has lost it. -/
theorem alive_takeAll (o : Output σ) (bs : List Batch) : (o.takeAll d bs).2.alive = true ↔
    o.alive = true ∧ ∀ c ∈ journal d o bs, c.crashed = false := by
  induction bs generalizing o with
  | nil => simp [takeAll, journal, noted]
  | cons b bs ih =>
    have calls : journal d o (b :: bs) = journal d o [b] ++ journal d (o.take d b).2 bs :=
      journal_append o [b] bs
    have step : (o.takeAll d (b :: bs)).2 = ((o.take d b).2.takeAll d bs).2 := rfl
    rw [step, ih, (take_journal d o b).1.alive, calls]
    simp only [List.forall_mem_append, and_assoc]

/-- The result of the group `b` by the calls for it, which come after the calls `earlier`. -/
structure Judged (d : Device σ) (o : Output σ) (earlier : List Exchange) (b : Batch) (delivered : Bool) :
    Prop where
  /-- It was delivered if the device has taken all its lines and then was flushed. -/
  verdict : delivered = true ↔ (journal d o [b]).flatMap Exchange.accepted = linesOf b.records ∧
    (journal d o [b]).getLast? = some (.flush .done)
  /-- It was tried, whatever had failed before, unless the device was lost. -/
  tried : (∀ c ∈ earlier, c.crashed = false) → journal d o [b] ≠ []
  /-- Once the device was lost there are no calls, -/
  untried : (∃ c ∈ earlier, c.crashed = true) → journal d o [b] = []
  /-- and neither the group that lost it nor any later one was delivered. -/
  lost : (∃ c ∈ earlier ++ journal d o [b], c.crashed = true) → delivered = false

theorem judged_of_alive {o : Output σ} {earlier : List Exchange}
    (usable : o.alive = true ↔ ∀ c ∈ earlier, c.crashed = false) (b : Batch) :
    Judged d o earlier b (o.take d b).1.delivered := by
  obtain ⟨delivered, part, result, bytes, -, whole⟩ := take_cases (d := d) o b
  have made := (take_journal d o b).1
  have parts : (journal d o [b]).flatMap Exchange.accepted = part :=
    List.append_cancel_left (made.bytes.symm.trans bytes)
  have yes : (o.take d b).1.delivered = true → part = linesOf b.records := fun h =>
    whole (by rwa [result] at h)
  cases halive : o.alive with
  | false =>
    obtain ⟨none, refused⟩ := made.lost halive
    have crashed : ¬∀ c ∈ earlier, c.crashed = false := fun calm => by
      rw [usable.mpr calm] at halive
      cases halive
    exact ⟨by simp [refused, none], fun calm => absurd calm crashed, fun _ => none, fun _ => refused⟩
  | true =>
    obtain ⟨some, last⟩ := made.tried halive
    have calm := usable.mp halive
    refine ⟨⟨fun h => ⟨parts.trans (yes h), last.mp h⟩, fun h => last.mpr h.2⟩, fun _ => some, ?_, ?_⟩
    · rintro ⟨c, hc, crashed⟩
      cases crashed.symm.trans (calm c hc)
    · rintro ⟨c, hc, crashed⟩
      rw [← Bool.not_eq_true]
      intro done
      rcases List.mem_append.mp hc with hc | hc
      · cases crashed.symm.trans (calm c hc)
      · cases crashed.symm.trans (made.calm done c hc)

/-- The results of a sequence of groups are those that the calls tell. -/
theorem judged (d : Device σ) (s : σ) (before : List Batch) (b : Batch) (after : List Batch) :
    ∃ delivered, ((fresh s).takeAll d (before ++ b :: after)).1[before.length]? = some ⟨b.id, delivered⟩ ∧
      Judged d ((fresh s).takeAll d before).2 (journal d (fresh s) before) b delivered := by
  have usable := alive_takeAll (d := d) (fresh s) before
  refine ⟨_, ?_, judged_of_alive (usable.trans (and_iff_right rfl)) b⟩
  obtain ⟨delivered, part, result, -⟩ := take_cases (d := d) ((fresh s).takeAll d before).2 b
  rw [takeAll_append, List.getElem?_append_right (Nat.le_of_eq (takeAll_length _ _)), takeAll_length,
    Nat.sub_self, result]
  exact congrArg some result

end Output
end Sluice
