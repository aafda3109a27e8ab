import Sluice.Proofs.Instants
import Sluice.Proofs.Json.Values
import Sluice.Record.Reader
/-!
# The line of a record is read back

The line holds the four fields of a record in the order in which they are declared, and the time only
if there is one. Each is read back by the reader of its kind, and none comes twice.

* `Record.Exact`: the records that have one line.
* `readTags_print`, `readFields_print`, `readTimestamp_print`: the fields, read back one by one.
* `Record.read_line`: a record is read back from its line.
-/
namespace Sluice

namespace Instant
open Json (bare)

theorem bare_of_isDigit {c : Char} (h : c.isDigit) : bare c := by
  have range := digit_range h
  simp only [bare, Bool.and_eq_true, bne_iff_ne, ne_eq, decide_eq_true_iff]
  refine ⟨⟨?_, ?_⟩, by omega⟩
  all_goals
    rintro rfl
    revert range
    decide

theorem all_bare_padded (width n : Nat) : (padded width n).all bare = true :=
  List.all_eq_true.mpr fun _ h => bare_of_isDigit (isDigit_of_mem_padded h)

theorem all_bare_printYear (y : Int) : (printYear y).all bare = true := by
  unfold printYear
  split
  · exact all_bare_padded 4 _
  · split <;> simp only [List.all_cons, all_bare_padded] <;> decide

theorem all_bare_printFraction (n : Nat) : (printFraction n).all bare = true := by
  unfold printFraction
  repeat' split
  · rfl
  all_goals
    simp only [List.all_cons, all_bare_padded]
    decide

/-- Nothing in a printed instant needs an escape. -/
theorem all_bare_print (t : Instant) : t.print.all bare = true := by
  simp only [print, List.all_append, List.all_cons, List.all_nil, all_bare_padded, all_bare_printYear,
    all_bare_printFraction]
  decide

end Instant

namespace Record
open Json (Cursor Reading Delimited stringBytes lead entriesBytes nextKey_lead nextKey_end colon_cons
  string_print)
open Text.Utf8 (encode encode_cons encode_append encode_nil)

/-- How many brackets the line of a record opens within one another. -/
def nesting (r : Record) : Nat :=
  max (Json.Value.object r.tagObject).nesting (Json.Value.object r.fields).nesting + 1

/-- Records whose tags and fields are maps, whose numbers are whole, whose time came from a payload,
and whose line does not nest too deep. -/
structure Exact (r : Record) : Prop where
  tags : r.tags.Ascending
  fields : r.fields.Ascending
  values : ∀ e ∈ r.fields, Json.Regular e.2
  time : ∀ t, r.timestamp = some t → ∃ v, Payload.timestamp v = .ok t
  nesting : r.nesting ≤ 127

/-! ## The fields one by one -/

theorem start_cons {x : UInt8} (h : Json.isSpace x = false) (before : Nat) (rest : List UInt8) :
    start ⟨before, x :: rest⟩ = .ok ⟨before, x :: rest⟩ := by
  rw [start, Json.skipSpace_cons h]
  rfl

theorem readText_print (expected s : String) (before : Nat) (rest : List UInt8) : ∃ b,
    readText expected ⟨before, 34 :: (stringBytes s ++ rest)⟩ = .ok (s, ⟨b, rest⟩) := by
  obtain ⟨b, read⟩ := string_print s (before + 1) rest
  refine ⟨b, ?_⟩
  rw [readText, start_cons rfl]
  simp only [Cursor.peek, List.headD_cons, beq_self_eq_true, if_true, Cursor.skip,
    List.drop_succ_cons, List.drop_zero, read]

/-- The tags as the entries of an object of strings. -/
def texts (tags : Keyed String) : Json.Object := tags.map fun e => (e.1, .string e.2)

theorem entriesBytes_texts_cons (first : Bool) (k v : String) (tags : Keyed String) :
    entriesBytes first (texts ((k, v) :: tags)) = lead first ++
      34 :: (stringBytes k ++ 58 :: 34 :: (stringBytes v ++ entriesBytes false (texts tags))) := by
  show entriesBytes first ((k, .string v) :: texts tags) = _
  rw [entriesBytes, Json.Value.print, Json.encode_printString, List.cons_append]

theorem readTagEntries_print {tags : Keyed String} (fuel : Nat) (first : Bool) (done : Keyed String)
    (ascending : Keyed.Ascending (done ++ tags)) (before : Nat) (rest : List UInt8)
    (enough : (entriesBytes first (texts tags)).length ≤ fuel) : ∃ b,
      readTagEntries fuel first done ⟨before, entriesBytes first (texts tags) ++ rest⟩ =
        .ok (done ++ tags, ⟨b, rest⟩) := by
  have pos := Json.entriesBytes_pos first (texts tags)
  induction tags generalizing fuel first done before with
  | nil =>
    obtain ⟨fuel, rfl⟩ : ∃ f, fuel = f + 1 := ⟨fuel - 1, by omega⟩
    refine ⟨before + 1, ?_⟩
    show readTagEntries (fuel + 1) first done ⟨before, 125 :: rest⟩ = _
    rw [readTagEntries, nextKey_end, List.append_nil]
    rfl
  | cons e tags ih =>
    obtain ⟨k, v⟩ := e
    obtain ⟨fuel, rfl⟩ : ∃ f, fuel = f + 1 := ⟨fuel - 1, by omega⟩
    have above : ∀ e ∈ done, e.1 < k := fun e he =>
      (List.pairwise_append.mp ascending).2.2 e he (k, v) List.mem_cons_self
    rw [entriesBytes_texts_cons, List.length_append, List.length_cons, List.length_append,
      List.length_cons, List.length_cons, List.length_append] at enough
    obtain ⟨b, next⟩ := nextKey_lead first before
      (stringBytes k ++ 58 :: 34 :: (stringBytes v ++ (entriesBytes false (texts tags) ++ rest)))
    obtain ⟨b', key⟩ := string_print k (b + 1)
      (58 :: 34 :: (stringBytes v ++ (entriesBytes false (texts tags) ++ rest)))
    obtain ⟨c, read⟩ := readText_print "a string" v (b' + 1) (entriesBytes false (texts tags) ++ rest)
    obtain ⟨c', more⟩ := ih fuel false (done ++ [(k, v)]) (by rwa [List.append_assoc]) c (by omega)
      (Json.entriesBytes_pos false (texts tags))
    refine ⟨c', ?_⟩
    simp only [entriesBytes_texts_cons, List.append_assoc, List.cons_append, readTagEntries, next,
      Cursor.skip, List.drop_succ_cons, List.drop_zero, key, colon_cons, read,
      Keyed.insert_last v above, more, List.nil_append]

theorem readTags_print {tags : Keyed String} (ascending : tags.Ascending) (before : Nat)
    (rest : List UInt8) : ∃ b,
      readTags ⟨before, 123 :: (entriesBytes true (texts tags) ++ rest)⟩ =
        .ok (tags, ⟨b, rest⟩) := by
  obtain ⟨b, read⟩ := readTagEntries_print
    ((123 :: (entriesBytes true (texts tags) ++ rest)).length + 1) true [] ascending (before + 1) rest
    (by rw [List.length_cons, List.length_append]; omega)
  refine ⟨b, ?_⟩
  rw [readTags, start_cons rfl]
  simp only [Cursor.peek, List.headD_cons, beq_self_eq_true, if_true, Cursor.skip,
    List.drop_succ_cons, List.drop_zero, read, List.nil_append]

theorem readFields_print {fields : Json.Object} (ascending : fields.Ascending)
    (values : ∀ e ∈ fields, Json.Regular e.2) (shallow : Json.nestingEntries fields ≤ 125)
    (before : Nat) (rest : List UInt8) : ∃ b,
      readFields ⟨before, 123 :: (entriesBytes true fields ++ rest)⟩ = .ok (fields, ⟨b, rest⟩) := by
  obtain ⟨b, read⟩ := Json.entries_print (fun e he => Json.value_print (values e he))
    (2 * (123 :: (entriesBytes true fields ++ rest)).length + 2) (Json.depthLimit - 2) true [] ascending
    (before + 1) rest (by rw [List.length_cons, List.length_append]; omega)
    (Nat.lt_succ_of_le shallow)
  refine ⟨b, ?_⟩
  rw [readFields, start_cons rfl]
  simp only [Cursor.peek, List.headD_cons, beq_self_eq_true, if_true, Cursor.skip,
    List.drop_succ_cons, List.drop_zero, read, List.nil_append]

theorem readTimestamp_print {t : Instant} (proper : t.Proper) (before : Nat) (rest : List UInt8) :
    ∃ b, readTimestamp ⟨before, 34 :: (stringBytes (String.ofList t.print) ++ rest)⟩ =
      .ok (some t, ⟨b, rest⟩) := by
  obtain ⟨b, read⟩ := readText_print "an RFC 3339 formatted date and time string"
    (String.ofList t.print) before rest
  refine ⟨b, ?_⟩
  rw [readTimestamp, Json.skipSpace_cons rfl, read]
  simp only [String.toList_ofList, Instant.readRelaxed_print proper]
  rfl

/-! ## The line -/

/-- The bytes of a field of the line, with what stands before it. -/
def fieldBytes (first : Bool) (key : String) (text : List UInt8) : List UInt8 :=
  lead first ++ 34 :: (stringBytes key ++ 58 :: text)

theorem field_none {α : Type} (key : String) {read : Cursor → Reading α} {before : Nat}
    {text : List UInt8} {a : α} {c : Cursor} (h : read ⟨before + 1, text⟩ = .ok (a, c)) :
    field key none read ⟨before, 58 :: text⟩ = .ok (a, c) := by
  rw [field, colon_cons]
  simp only [Option.isSome_none, Bool.false_eq_true, if_false, h]
  rfl

theorem readEntries_end (fuel : Nat) (first : Bool) (p : Partial) (before : Nat) (rest : List UInt8) :
    readEntries (fuel + 1) first p ⟨before, 125 :: rest⟩ = .ok (p, ⟨before, 125 :: rest⟩) := by
  rw [readEntries, nextKey_end]

theorem fieldBytes_key (first : Bool) (key : String) (text : List UInt8) (before : Nat) : ∃ c b,
    Json.nextKey first ⟨before, fieldBytes first key text⟩ = .ok (true, c) ∧
      Json.string (c.skip 1) = .ok (key, ⟨b, 58 :: text⟩) := by
  obtain ⟨b, next⟩ := nextKey_lead first before (stringBytes key ++ 58 :: text)
  obtain ⟨b', read⟩ := string_print key (b + 1) (58 :: text)
  exact ⟨_, b', next, read⟩

section
variable (fuel : Nat) (first : Bool) {p : Partial} (before : Nat) (rest : List UInt8)

theorem readEntries_name (new : p.name = none) (name : String) : ∃ b,
    readEntries (fuel + 1) first p
        ⟨before, fieldBytes first "name" (34 :: (stringBytes name ++ rest))⟩ =
      readEntries fuel false { p with name := some name } ⟨b, rest⟩ := by
  obtain ⟨c, b, next, key⟩ := fieldBytes_key first "name" (34 :: (stringBytes name ++ rest)) before
  obtain ⟨b', read⟩ := readText_print "a string" name (b + 1) rest
  change readName _ = _ at read
  refine ⟨b', ?_⟩
  rw [readEntries, next]
  simp only [key, if_true, new, field_none "name" read]

theorem readEntries_tags (new : p.tags = none) {tags : Keyed String} (ascending : tags.Ascending) :
    ∃ b, readEntries (fuel + 1) first p
        ⟨before, fieldBytes first "tags" (123 :: (entriesBytes true (texts tags) ++ rest))⟩ =
      readEntries fuel false { p with tags := some tags } ⟨b, rest⟩ := by
  obtain ⟨c, b, next, key⟩ :=
    fieldBytes_key first "tags" (123 :: (entriesBytes true (texts tags) ++ rest)) before
  obtain ⟨b', read⟩ := readTags_print ascending (b + 1) rest
  refine ⟨b', ?_⟩
  rw [readEntries, next]
  simp only [key, String.reduceEq, if_false, if_true, new, field_none "tags" read]

theorem readEntries_fields (new : p.fields = none) {fields : Json.Object}
    (ascending : fields.Ascending) (values : ∀ e ∈ fields, Json.Regular e.2)
    (shallow : Json.nestingEntries fields ≤ 125) : ∃ b,
      readEntries (fuel + 1) first p
          ⟨before, fieldBytes first "fields" (123 :: (entriesBytes true fields ++ rest))⟩ =
        readEntries fuel false { p with fields := some fields } ⟨b, rest⟩ := by
  obtain ⟨c, b, next, key⟩ :=
    fieldBytes_key first "fields" (123 :: (entriesBytes true fields ++ rest)) before
  obtain ⟨b', read⟩ := readFields_print ascending values shallow (b + 1) rest
  refine ⟨b', ?_⟩
  rw [readEntries, next]
  simp only [key, String.reduceEq, if_false, if_true, new, field_none "fields" read]

theorem readEntries_timestamp (new : p.timestamp = none) {t : Instant} (proper : t.Proper) : ∃ b,
    readEntries (fuel + 1) first p ⟨before,
        fieldBytes first "timestamp" (34 :: (stringBytes (String.ofList t.print) ++ rest))⟩ =
      readEntries fuel false { p with timestamp := some (some t) } ⟨b, rest⟩ := by
  obtain ⟨c, b, next, key⟩ := fieldBytes_key first "timestamp"
    (34 :: (stringBytes (String.ofList t.print) ++ rest)) before
  obtain ⟨b', read⟩ := readTimestamp_print proper (b + 1) rest
  refine ⟨b', ?_⟩
  rw [readEntries, next]
  simp only [key, String.reduceEq, if_false, if_true, new, field_none "timestamp" read]

end

/-- The bytes of the line behind its fields. -/
def timeBytes : Option Instant → List UInt8
  | none => [125]
  | some t => fieldBytes false "timestamp" (34 :: (stringBytes (String.ofList t.print) ++ [125]))

theorem encode_time (t : Instant) :
    encode (',' :: lineKey "timestamp" ++ '"' :: t.print ++ ['"']) ++ [125] = timeBytes (some t) := by
  have bare : t.print.flatMap Json.printChar = t.print :=
    Json.flatMap_printChar_bare (List.all_eq_true.mp (Instant.all_bare_print t))
  simp only [lineKey, timeBytes, fieldBytes, stringBytes, String.toList_ofList, bare, encode_append,
    List.cons_append, encode_cons, Json.encode_printString, List.append_assoc]
  rfl

theorem encode_line (r : Record) : encode r.line = 123 ::
    fieldBytes true "name" (34 :: (stringBytes r.name ++
      fieldBytes false "tags" (123 :: (entriesBytes true (texts r.tags) ++
        fieldBytes false "fields" (123 :: (entriesBytes true r.fields ++ timeBytes r.timestamp)))))) := by
  obtain ⟨time, behind, hend⟩ : ∃ time, line r = '\x7b' :: lineKey "name" ++ Json.printString r.name ++
      ',' :: lineKey "tags" ++ (Json.Value.object r.tagObject).print ++
      ',' :: lineKey "fields" ++ (Json.Value.object r.fields).print ++ time ++ ['\x7d'] ∧
      encode time ++ [125] = timeBytes r.timestamp := by
    refine ⟨_, rfl, ?_⟩
    cases r.timestamp with
    | none => rfl
    | some t => exact encode_time t
  rw [behind, encode_append, List.append_assoc, encode_append]
  simp only [lineKey, fieldBytes, Json.Value.print, encode_append, List.cons_append, encode_cons,
    Json.encode_printString, Json.encode_printEntries, List.append_assoc]
  rw [← hend]
  rfl

theorem le_length_fieldBytes (first : Bool) (key : String) (text : List UInt8) :
    2 + text.length ≤ (fieldBytes first key text).length := by
  rw [fieldBytes, List.length_append, List.length_cons, List.length_append, List.length_cons]
  omega

/-- The end of a line is read back, with the time if there is one. -/
theorem readEntries_time {fuel : Nat} (enough : 2 ≤ fuel) {p : Partial} (new : p.timestamp = none)
    {time : Option Instant} (proper : ∀ t, time = some t → t.Proper) (before : Nat) :
    ∃ p' b, readEntries fuel false p ⟨before, timeBytes time⟩ = .ok (p', ⟨b, [125]⟩) ∧
      p' = { p with timestamp := p'.timestamp } ∧ p'.timestamp.getD none = time := by
  obtain ⟨fuel, rfl⟩ : ∃ f, fuel = f + 2 := ⟨fuel - 2, by omega⟩
  cases time with
  | none => exact ⟨p, before, readEntries_end _ _ _ _ _, rfl, by rw [new]; rfl⟩
  | some t =>
    obtain ⟨b, read⟩ := readEntries_timestamp (fuel + 1) false before [125] new (proper t rfl)
    exact ⟨{ p with timestamp := some (some t) }, b, by rw [timeBytes, read, readEntries_end], rfl, rfl⟩

/-- A record is read back from its line. -/
theorem read_line {r : Record} (exact : r.Exact) : Record.read (encode r.line) = .ok r := by
  obtain ⟨name, tags, fields, time⟩ := r
  have shallow : Json.nestingEntries fields ≤ 125 := by
    have := exact.nesting
    simp only [nesting, Json.Value.nesting] at this
    omega
  have proper : ∀ t, time = some t → t.Proper := fun t ht => by
    obtain ⟨v, hv⟩ := exact.time t ht
    exact Instant.proper_of_timestamp hv
  -- what stands behind the name, behind the tags and behind the fields
  obtain ⟨behind_fields, h3⟩ : ∃ x, x = timeBytes time := ⟨_, rfl⟩
  obtain ⟨behind_tags, h2⟩ : ∃ x, x =
    fieldBytes false "fields" (123 :: (entriesBytes true fields ++ behind_fields)) := ⟨_, rfl⟩
  obtain ⟨behind_name, h1⟩ : ∃ x, x =
    fieldBytes false "tags" (123 :: (entriesBytes true (texts tags) ++ behind_tags)) := ⟨_, rfl⟩
  obtain ⟨text, h0⟩ : ∃ x, x =
    fieldBytes true "name" (34 :: (stringBytes name ++ behind_name)) := ⟨_, rfl⟩
  have bytes : encode (line ⟨name, tags, fields, time⟩) = 123 :: text := by
    rw [encode_line, h0, h1, h2, h3]
  have long : 3 ≤ text.length := by
    have name_long := le_length_fieldBytes true "name" (34 :: (stringBytes name ++ behind_name))
    have tags_long := le_length_fieldBytes false "tags"
      (123 :: (entriesBytes true (texts tags) ++ behind_tags))
    simp only [List.length_cons, List.length_append, ← h0, ← h1] at name_long tags_long
    omega
  obtain ⟨fuel, hfuel⟩ : ∃ f, (123 :: text).length + 1 = f + 2 + 1 + 1 + 1 :=
    ⟨text.length - 3, by rw [List.length_cons]; omega⟩
  obtain ⟨b1, read1⟩ := readEntries_name (p := ⟨none, none, none, none⟩) (fuel + 2 + 1 + 1) true 1
    behind_name rfl name
  obtain ⟨b2, read2⟩ := readEntries_tags (p := ⟨some name, none, none, none⟩) (fuel + 2 + 1) false b1
    behind_tags rfl exact.tags
  obtain ⟨b3, read3⟩ := readEntries_fields (p := ⟨some name, some tags, none, none⟩) (fuel + 2) false b2
    behind_fields rfl exact.fields exact.values shallow
  obtain ⟨p, b4, read4, hp, htime⟩ := readEntries_time (p := ⟨some name, some tags, some fields, none⟩)
    (Nat.le_add_left 2 fuel) rfl proper b3
  have entries : readEntries ((123 :: text).length + 1) true ⟨none, none, none, none⟩ ⟨1, text⟩ =
      .ok (p, ⟨b4, [125]⟩) := by
    rw [hfuel, h0, read1, h1, read2, h2, read3, h3, read4]
  have whole : ofPartial p ⟨b4, [125]⟩ = .ok (⟨name, tags, fields, time⟩, ⟨b4, [125]⟩) := by
    rw [hp, ← htime]
    rfl
  have record : readRecord (.start (123 :: text)) = .ok (⟨name, tags, fields, time⟩, ⟨b4 + 1, []⟩) := by
    rw [readRecord, Cursor.start, start_cons rfl]
    show close endObject (readEntries ((123 :: text).length + 1) true ⟨none, none, none, none⟩ ⟨1, text⟩ >>=
      fun x => ofPartial x.1 x.2) = _
    rw [entries]
    show close endObject (ofPartial p ⟨b4, [125]⟩) = _
    rw [whole]
    rfl
  rw [bytes, Record.read, record]
  rfl

end Record
end Sluice
