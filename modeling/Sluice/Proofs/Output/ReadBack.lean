import Sluice.Proofs.Output.Confirmed
import Sluice.Proofs.Record
/-!
# What was written can be read back

Every record that is written stands on a line of its own, and the line is read back as the record.

* `Device.Willing`: a device that takes something of every write and can be flushed.
* `writeRecords_willing`: such a device takes all records.
* `records_read_back`: the lines of what a device has taken, and what is read from them.
-/
namespace Sluice

/-- Takes at least a byte of every write, and can always be flushed. -/
structure Device.Willing {σ : Type} (d : Device σ) : Prop where
  write : ∀ s b bytes, ∃ n s', d.write s (b :: bytes) = (.taken (n + 1), s')
  flush : ∀ s, ∃ s', d.flush s = (.done, s')

/-- A device that takes everything. -/
def Device.buffer : Device Unit where
  write s bytes := (.taken bytes.length, s)
  flush s := (.done, s)

theorem Device.willing_buffer : Device.buffer.Willing :=
  ⟨fun s _ bytes => ⟨bytes.length, s, rfl⟩, fun s => ⟨s, rfl⟩⟩

namespace Output
variable {σ : Type} {d : Device σ}

theorem writeAll_willing (willing : d.Willing) (o : Output σ) (bytes : List UInt8) :
    (o.writeAll d bytes).1 = .written := by
  fun_induction writeAll d o bytes with
  | case1 o => rfl
  | case2 o b rest s h =>
    obtain ⟨n, s', h'⟩ := willing.write o.state b rest
    rw [h] at h'
    cases h'
  | case3 o b rest n s h ih => exact ih
  | case4 o b rest s h =>
    obtain ⟨n, s', h'⟩ := willing.write o.state b rest
    rw [h] at h'
    cases h'
  | case5 o b rest s h =>
    obtain ⟨n, s', h'⟩ := willing.write o.state b rest
    rw [h] at h'
    cases h'

/-- A willing device takes all records. -/
theorem writeRecords_willing (willing : d.Willing) (o : Output σ) (rs : List Record) :
    (o.writeRecords d rs).1 = .written := by
  induction rs generalizing o with
  | nil =>
    obtain ⟨s', h⟩ := willing.flush o.state
    rw [writeRecords, Output.flush, h]
  | cons r rs ih =>
    have line := writeAll_willing willing o (lineBytes r)
    unfold writeRecords
    split
    · next o1 h1 =>
      have newline := writeAll_willing willing o1 [newline]
      split
      · next o2 h2 => exact ih o2
      · exact newline
    · exact line

/-- **What was written is one line for each record, in order, and each line is read back as its
record.** A device that is willing takes them all. -/
theorem records_read_back (d : Device σ) (o : Output σ) {rs : List Record}
    (exact : ∀ r ∈ rs, r.Exact) :
    (d.Willing → (o.writeRecords d rs).1 = .written) ∧
      ((o.writeRecords d rs).1 = .written → ∃ text, (o.writeRecords d rs).2.bytes = o.bytes ++ text ∧
        lines text = rs.map lineBytes ++ [[]] ∧
        (rs.map lineBytes).map Record.read = rs.map .ok) := by
  refine ⟨fun willing => writeRecords_willing willing o rs, fun written => ?_⟩
  obtain ⟨part, bytes, -, whole⟩ := writeRecords_adds (d := d) o rs
  have all : part = linesOf rs := whole written
  refine ⟨linesOf rs, by rw [bytes, all], ?_, ?_⟩
  · have := lines_linesOf rs []
    rw [List.append_nil] at this
    exact this
  · rw [List.map_map]
    exact List.map_congr_left fun r hr => Record.read_line (exact r hr)


/-- A record with an escape in a tag, numbers at both limits within a list, and a leap second. -/
def sample : Record where
  name := "cpu"
  tags := [("host", "a\"b\n"), ("zone", "é")]
  fields := [("", .object [("deep", .array [.null, .bool true])]),
    ("limits", .array [.number (.whole (-9223372036854775808)),
      .number (.whole 18446744073709551615)])]
  timestamp := some ⟨1483228799, 1500000000⟩

theorem exact_sample : sample.Exact where
  tags := by decide
  fields := by decide
  values := by
    intro e he
    simp only [sample, List.mem_cons, List.not_mem_nil, or_false] at he
    rcases he with rfl | rfl
    · refine .object (by decide) fun e he => ?_
      rw [List.mem_singleton.mp he]
      refine .array fun v hv => ?_
      simp only [List.mem_cons, List.not_mem_nil, or_false] at hv
      rcases hv with rfl | rfl
      · exact .null
      · exact .bool true
    · refine .array fun v hv => ?_
      simp only [List.mem_cons, List.not_mem_nil, or_false] at hv
      rcases hv with rfl | rfl
      · exact .number ⟨by decide, by decide⟩
      · exact .number ⟨by decide, by decide⟩
  time t ht := by
    cases ht
    exact ⟨.string "2016-12-31T23:59:60.5Z", rfl⟩
  nesting := by decide

theorem exact_named (name : String) : (Record.named name).Exact where
  tags := Keyed.ascending_nil
  fields := Keyed.ascending_nil
  values := nofun
  time := nofun
  nesting := show 2 ≤ 127 by decide

theorem records_read_back_sample : (∀ r ∈ [sample, .named "mem"], r.Exact) ∧
    ∃ text, ((fresh ()).writeRecords .buffer [sample, .named "mem"]).2.bytes = text ∧
      lines text = [lineBytes sample, lineBytes (.named "mem"), []] ∧
      [Record.read (lineBytes sample), Record.read (lineBytes (.named "mem"))] =
        [.ok sample, .ok (.named "mem")] := by
  have exact : ∀ r ∈ [sample, .named "mem"], r.Exact := by
    intro r hr
    simp only [List.mem_cons, List.not_mem_nil, or_false] at hr
    rcases hr with rfl | rfl
    · exact exact_sample
    · exact exact_named "mem"
  obtain ⟨written, back⟩ := records_read_back .buffer (fresh ()) exact
  obtain ⟨text, bytes, split, read⟩ := back (written Device.willing_buffer)
  exact ⟨exact, text, by rw [bytes]; rfl, split, read⟩

end Output
end Sluice
