import Sluice.Proofs.Output.OneLine
/-!
# What a confirmed group leaves in the output

The output is kept after a failure, and with it the part of a line that the device took before it
failed. So a confirmed group has all its bytes in the output, but its first record is on a line of its
own only if a line ends where it begins.

* `take_cases`: what a group adds to the bytes, whatever the device does.
* `lines_of_whole`, `lines_of_torn`: the lines that a confirmed group adds to whole lines, and to a
  torn one.
* `confirmed_lines_iff`: when the records of a confirmed group are lines of the output.
-/
namespace Sluice
namespace Output
variable {σ : Type} {d : Device σ}

/-- Records as bytes, each on a line. -/
def linesOf (rs : List Record) : List UInt8 := rs.flatMap fun r => lineBytes r ++ [newline]

/-- The lines of an output; the last one is not ended. -/
def lines (bytes : List UInt8) : List (List UInt8) := bytes.splitOn newline

/-- Whether all lines are ended. -/
def Whole (bytes : List UInt8) : Prop := bytes = [] ∨ bytes.getLast? = some newline

/-! ## What the device takes -/

/-- After an attempt to write `bytes` the output has got the beginning of them; all, if they were
written. -/
def Adds (o : Output σ) (bytes : List UInt8) (x : Verdict × Output σ) : Prop :=
  ∃ part, x.2.bytes = o.bytes ++ part ∧ part <+: bytes ∧ (x.1 = .written → part = bytes)

theorem Adds.nothing (o : Output σ) (s : σ) {v : Verdict} (hv : v ≠ .written)
    (bytes : List UInt8) : Adds o bytes (v, { o with state := s }) :=
  ⟨[], by simp, List.nil_prefix, fun e => absurd e hv⟩

/-- What was written is followed by what is written next. -/
theorem Adds.next {o o' : Output σ} {bytes more : List UInt8} {x : Verdict × Output σ}
    (h : Adds o bytes (.written, o')) (h' : Adds o' more x) : Adds o (bytes ++ more) x := by
  obtain ⟨part, hb, -, hw⟩ := h
  obtain ⟨part', hb', hp, hw'⟩ := h'
  cases hw rfl
  exact ⟨bytes ++ part', by rw [hb', hb, List.append_assoc], (List.prefix_append_right_inj _).mpr hp,
    fun h => by rw [hw' h]⟩

/-- After a failure nothing follows. -/
theorem Adds.stop {o : Output σ} {bytes : List UInt8} {x : Verdict × Output σ}
    (h : Adds o bytes x) (hx : ∀ o', x ≠ (.written, o')) (more : List UInt8) :
    Adds o (bytes ++ more) x := by
  obtain ⟨part, hb, hp, -⟩ := h
  exact ⟨part, hb, hp.trans (List.prefix_append _ _), fun e => (hx x.2 (Prod.ext e rfl)).elim⟩

theorem writeAll_adds (o : Output σ) (bytes : List UInt8) : Adds o bytes (o.writeAll d bytes) := by
  fun_induction writeAll d o bytes with
  | case1 o => exact ⟨[], by simp, List.prefix_rfl, fun _ => rfl⟩
  | case2 o b rest s _ => exact .nothing o s (by decide) _
  | case3 o b rest n s _ ih =>
    obtain ⟨part, hb, hp, hw⟩ := ih
    have hrest : b :: rest = b :: rest.take n ++ rest.drop n := by simp
    refine ⟨b :: rest.take n ++ part, by simp [hb], ?_, fun h => ?_⟩
    · rw [hrest]
      exact (List.prefix_append_right_inj _).mpr hp
    · rw [hw h, ← hrest]
  | case4 o b rest s _ => exact .nothing o s (by decide) _
  | case5 o b rest s _ => exact .nothing o s (by decide) _

theorem flush_adds (o : Output σ) : Adds o [] (o.flush d) := by
  unfold flush
  split
  · exact ⟨[], by simp, List.prefix_rfl, fun _ => rfl⟩
  · exact .nothing o _ (by decide) _
  · exact .nothing o _ (by decide) _

theorem linesOf_cons (r : Record) (rs : List Record) :
    linesOf (r :: rs) = lineBytes r ++ ([newline] ++ linesOf rs) := by
  simp [linesOf]

theorem writeRecords_adds (o : Output σ) (rs : List Record) :
    Adds o (linesOf rs) (o.writeRecords d rs) := by
  induction rs generalizing o with
  | nil => exact flush_adds o
  | cons r rs ih =>
    rw [linesOf_cons]
    unfold writeRecords
    have hline := writeAll_adds (d := d) o (lineBytes r)
    split
    · next o1 h1 =>
      rw [h1] at hline
      refine hline.next ?_
      have hend := writeAll_adds (d := d) o1 [newline]
      split
      · next o2 h2 =>
        rw [h2] at hend
        exact hend.next (ih o2)
      · next h2 => exact hend.stop h2 _
    · next h1 => exact hline.stop h1 _

/-- Of a group the device takes the beginning; all of it, if the group is confirmed. -/
theorem take_cases (o : Output σ) (b : Batch) : ∃ delivered part,
    (o.take d b).1 = ⟨b.id, delivered⟩ ∧ (o.take d b).2.bytes = o.bytes ++ part ∧
      part <+: linesOf b.records ∧ (delivered = true → part = linesOf b.records) := by
  unfold take
  split
  · exact ⟨false, [], rfl, by simp, List.nil_prefix, nofun⟩
  · obtain ⟨part, hb, hp, hw⟩ := writeRecords_adds (d := d) o b.records
    split
    · next o' h =>
      rw [h] at hb hw
      exact ⟨true, part, rfl, hb, hp, fun _ => hw rfl⟩
    · next o' h =>
      rw [h] at hb
      exact ⟨false, part, rfl, hb, hp, nofun⟩
    · next o' h =>
      rw [h] at hb
      exact ⟨false, part, rfl, hb, hp, nofun⟩

/-! ## What a run leaves -/

theorem takeAll_append (o : Output σ) (as bs : List Batch) :
    o.takeAll d (as ++ bs) = ((o.takeAll d as).1 ++ ((o.takeAll d as).2.takeAll d bs).1,
      ((o.takeAll d as).2.takeAll d bs).2) := by
  induction as generalizing o with
  | nil => rfl
  | cons a as ih => simp [takeAll, ih]

theorem takeAll_length (o : Output σ) (bs : List Batch) :
    (o.takeAll d bs).1.length = bs.length := by
  induction bs generalizing o with
  | nil => rfl
  | cons b bs ih => simp [takeAll, ih]

/-- Nothing that the device has taken is lost. -/
theorem takeAll_prefix (o : Output σ) (bs : List Batch) :
    o.bytes <+: (o.takeAll d bs).2.bytes := by
  induction bs generalizing o with
  | nil => exact List.prefix_rfl
  | cons b bs ih =>
    obtain ⟨_, part, -, hb, -⟩ := take_cases (d := d) o b
    refine List.IsPrefix.trans ?_ (ih (o.take d b).2)
    rw [hb]
    exact List.prefix_append _ _

/-! ## Lines -/

theorem lines_append (bytes more : List UInt8) :
    lines (bytes ++ newline :: more) = lines bytes ++ lines more :=
  List.splitOn_append_cons_self bytes more

theorem lines_of_not_mem {bytes : List UInt8} (h : newline ∉ bytes) : lines bytes = [bytes] :=
  List.splitOn_eq_singleton h

theorem length_lines (bytes : List UInt8) : (lines bytes).length = bytes.count newline + 1 := by
  unfold lines List.splitOn
  induction bytes with
  | nil => simp
  | cons b bytes ih =>
    rw [List.splitOnP_cons_eq_if_modifyHead, List.count_cons]
    split
    · simp [ih]
    · rw [List.length_modifyHead, ih]

/-- Every output is made of whole lines and of what follows them. -/
theorem exists_whole (bytes : List UInt8) : ∃ ended torn, bytes = ended ++ torn ∧ Whole ended ∧
    newline ∉ torn := by
  induction bytes with
  | nil => exact ⟨[], [], rfl, .inl rfl, List.not_mem_nil⟩
  | cons b bytes ih =>
    obtain ⟨ended, torn, rfl, he, ht⟩ := ih
    cases ended with
    | nil =>
      by_cases hb : b = newline
      · exact ⟨[b], torn, rfl, .inr (by simp [hb]), ht⟩
      · exact ⟨[], b :: torn, rfl, .inl rfl, by simp [ht, Ne.symm hb]⟩
    | cons e ended =>
      refine ⟨b :: e :: ended, torn, rfl, .inr ?_, ht⟩
      rw [List.getLast?_cons_cons]
      exact he.resolve_left nofun

/-- What follows whole lines begins a line. -/
theorem lines_of_whole {bytes : List UInt8} (h : Whole bytes) (more : List UInt8) :
    (lines (bytes ++ more)).drop (bytes.count newline) = lines more := by
  rcases h with rfl | h
  · rfl
  · obtain ⟨front, rfl⟩ := List.getLast?_eq_some_iff.mp h
    have hcount : (front ++ [newline]).count newline = (lines front).length := by
      simp [length_lines]
    rw [hcount, List.append_assoc, List.singleton_append, lines_append, List.drop_left]

theorem lines_linesOf (rs : List Record) (more : List UInt8) :
    lines (linesOf rs ++ more) = rs.map lineBytes ++ lines more := by
  induction rs with
  | nil => rfl
  | cons r rs ih =>
    rw [linesOf_cons, List.append_assoc, List.append_assoc, List.singleton_append, lines_append,
      lines_of_not_mem (newline_not_mem_lineBytes r), ih]
    rfl

/-- What follows a torn line continues it. -/
theorem lines_of_torn {ended torn : List UInt8} (he : Whole ended) (ht : newline ∉ torn)
    (r : Record) (more : List UInt8) :
    (lines (ended ++ torn ++ (lineBytes r ++ newline :: more))).drop
        ((ended ++ torn).count newline) = (torn ++ lineBytes r) :: lines more := by
  have hcount : (ended ++ torn).count newline = ended.count newline := by
    simp [List.count_eq_zero.mpr ht]
  rw [hcount, List.append_assoc, lines_of_whole he, ← List.append_assoc, lines_append,
    lines_of_not_mem, List.singleton_append]
  rw [List.mem_append, not_or]
  exact ⟨ht, newline_not_mem_lineBytes r⟩

/-- The records of a group are the next lines of the output exactly if there are none, or it begins
where a line ends. -/
theorem next_lines_iff (bytes : List UInt8) (rs : List Record) (more : List UInt8) :
    ((lines (bytes ++ linesOf rs ++ more)).drop (bytes.count newline)).take rs.length =
      rs.map lineBytes ↔ rs = [] ∨ Whole bytes := by
  constructor
  · intro h
    obtain ⟨ended, torn, rfl, he, ht⟩ := exists_whole bytes
    cases rs with
    | nil => exact .inl rfl
    | cons r rs =>
      rw [linesOf_cons, List.append_assoc, List.append_assoc, List.append_assoc,
        List.singleton_append, ← List.append_assoc, List.cons_append, lines_of_torn he ht] at h
      simp only [List.length_cons, List.take_succ_cons, List.map_cons, List.cons.injEq] at h
      -- behind a torn piece the line would be longer than the record's
      have htorn : torn = [] := by
        have := congrArg List.length h.1
        rw [List.length_append] at this
        exact List.length_eq_zero_iff.mp (by omega)
      subst htorn
      exact .inr (by simpa using he)
  · rintro (rfl | h)
    · simp
    · rw [List.append_assoc, lines_of_whole h, lines_linesOf]
      simp

theorem whole_linesOf {bytes : List UInt8} (h : Whole bytes) (rs : List Record) :
    Whole (bytes ++ linesOf rs) := by
  induction rs generalizing bytes with
  | nil => simpa [linesOf] using h
  | cons r rs ih =>
    rw [linesOf_cons, ← List.append_assoc, ← List.append_assoc]
    exact ih (.inr (by simp))

/-- As long as every group is confirmed all lines are ended. -/
theorem whole_of_confirmed {o : Output σ} (ho : Whole o.bytes) {bs : List Batch}
    (h : ∀ x ∈ (o.takeAll d bs).1, x.delivered = true) : Whole (o.takeAll d bs).2.bytes := by
  induction bs generalizing o with
  | nil => exact ho
  | cons b bs ih =>
    obtain ⟨delivered, part, hx, hb, -, hw⟩ := take_cases (d := d) o b
    have hd : delivered = true := by
      have := h (o.take d b).1 (by simp [takeAll])
      rwa [hx] at this
    refine ih (o := (o.take d b).2) ?_ fun x hm => h x (by simp [takeAll, hm])
    rw [hb, hw hd]
    exact whole_linesOf ho _

/-- **A confirmed group has all its bytes in the output, in the order of the groups**, whatever the
device does: each of its records is a line, unless it begins behind a line that the device has torn,
which no group that was confirmed leaves. Of a group that is not confirmed the beginning may be
there. -/
theorem confirmed_lines_iff (d : Device σ) (s : σ) (pre : List Batch) (b : Batch)
    (post : List Batch) :
    let before := ((fresh s).takeAll d pre)
    let all := (fresh s).takeAll d (pre ++ b :: post)
    (∃ delivered part after, all.1[pre.length]? = some ⟨b.id, delivered⟩ ∧
      all.2.bytes = before.2.bytes ++ part ++ after ∧ part <+: linesOf b.records ∧
      (delivered = true → part = linesOf b.records ∧
        (((lines all.2.bytes).drop (before.2.bytes.count newline)).take b.records.length =
          b.records.map lineBytes ↔ b.records = [] ∨ Whole before.2.bytes))) ∧
    ((∀ x ∈ before.1, x.delivered = true) → Whole before.2.bytes) := by
  intro before all
  refine ⟨?_, whole_of_confirmed (.inl rfl)⟩
  obtain ⟨delivered, part, hx, hb, hp, hw⟩ := take_cases (d := d) before.2 b
  obtain ⟨after, ha⟩ := takeAll_prefix (d := d) (before.2.take d b).2 post
  have hall : all = (before.1 ++ (before.2.take d b).1 :: ((before.2.take d b).2.takeAll d post).1,
      ((before.2.take d b).2.takeAll d post).2) := takeAll_append _ _ _
  have hbytes : all.2.bytes = before.2.bytes ++ part ++ after := by rw [hall, ← hb, ha]
  refine ⟨delivered, part, after, ?_, hbytes, hp, fun hd => ⟨hw hd, ?_⟩⟩
  · rw [hall, List.getElem?_append_right (Nat.le_of_eq (takeAll_length _ _)), takeAll_length,
      Nat.sub_self, hx]
    rfl
  · rw [hbytes, hw hd]
    exact next_lines_iff _ _ _

end Output

/-- A device that takes five bytes, then fails once, and works from then on. -/
def Device.faltering : Device Nat where
  write n bytes :=
    match n with
    | 0 => (.taken 5, 1)
    | 1 => (.failed, 2)
    | n => (.taken bytes.length, n)
  flush n := (.done, n)

namespace Output

/-- The record of the second group is confirmed and stands on no line of its own: it continues the
line that the failure of the first one tore. -/
theorem confirmed_record_torn :
    let out := (fresh 0).takeAll .faltering [⟨1, [.named "cpu"]⟩, ⟨2, [.named "mem"]⟩]
    out.1 = [⟨1, false⟩, ⟨2, true⟩] ∧ lineBytes (.named "mem") ∉ lines out.2.bytes :=
  ⟨by decide +kernel, by decide +kernel⟩

end Output
end Sluice
