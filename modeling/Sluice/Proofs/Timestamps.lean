import Sluice.Proofs.Payload
import Sluice.Proofs.Record
/-!
# Milliseconds and dates tell the same times

A payload tells a time by a whole number of milliseconds or by a date. The line of its record shows
the time as a date, and a payload with this date tells the time again. The printer and the reader of
dates meet at `Written`, which says what the text of a date is: every printed date is written so, and
whatever is written so is read as its parts.

* `Written`, `Parts.moment`: the Internet date format, and the moment that its parts name.
* `written_print`: an instant of a year with four digits is printed in the format.
* `readStrict_written`: a text in the format is read as its parts.
* `ofMillis?_of_year`: milliseconds make an instant that lies exactly so long after 1970.
* `Payload.forms_agree`: the two forms agree, for all milliseconds of the years 0 to 9999.
-/
namespace Sluice

namespace Instant

/-! ## The format -/

/-- The text `cs` is the number `n` in `width` digits. -/
structure Digits (width n : Nat) (cs : List Char) : Prop where
  length : cs.length = width
  all : ∀ c ∈ cs, c.isDigit
  value : Nat.ofDigitChars 10 cs 0 = n

/-- A fraction of a second in nanoseconds: nothing, or a point and one to nine digits. -/
inductive Fraction : Nat → List Char → Prop
  | none : Fraction 0 []
  | some {width n : Nat} {cs : List Char} (pos : 0 < width) (le : width ≤ 9)
    (digits : Digits width n cs) : Fraction (n * 10 ^ (9 - width)) ('.' :: cs)

/-- Parts that have a text: a date that exists, in a year of four digits, a time of day, and UTC. -/
structure Parts.Fits (p : Parts) : Prop where
  date : p.date.valid = true
  year : 0 ≤ p.date.year ∧ p.date.year ≤ 9999
  hour : p.hour ≤ 23
  minute : p.minute ≤ 59
  second : p.second ≤ 60
  utc : p.offset = 0

/-- The text of parts: `1969-12-31T23:59:59.999Z`. -/
inductive Written (p : Parts) : List Char → Prop
  | intro {year month day hour minute second fraction : List Char} (fits : p.Fits)
    (y : Digits 4 p.date.year.toNat year) (mo : Digits 2 p.date.month month)
    (d : Digits 2 p.date.day day) (h : Digits 2 p.hour hour) (mi : Digits 2 p.minute minute)
    (s : Digits 2 p.second second) (f : Fraction p.nanos fraction) :
    Written p (year ++ ('-' :: (month ++ ('-' :: (day ++ ('T' :: (hour ++ (':' :: (minute ++
      (':' :: (second ++ (fraction ++ ['Z']))))))))))))

/-- The nanoseconds from the beginning of 1970 to the moment that the parts name. -/
def Parts.moment (p : Parts) : Int :=
  (p.date.toDays * 86400 + (p.hour * 3600 + p.minute * 60 + p.second : Nat) - p.offset) * 1000000000 +
    p.nanos

/-! ## Printed dates are written so -/

theorem digits_padded {width n : Nat} (pos : 0 < width) (lt : n < 10 ^ width) :
    Digits width n (padded width n) where
  length := length_padded pos lt
  all _ := isDigit_of_mem_padded
  value := ofDigitChars_padded width n

theorem written_fraction {n : Nat} (lt : n < 1000000000) : Fraction n (printFraction n) := by
  rw [printFraction]
  simp only [beq_iff_eq]
  split
  · next zero =>
    subst zero
    exact .none
  split
  · next milli =>
    have whole : n / 1000000 * 10 ^ (9 - 3) = n := Nat.div_mul_cancel (Nat.dvd_of_mod_eq_zero milli)
    have three : Digits 3 (n / 1000000) (padded 3 (n / 1000000)) :=
      digits_padded (by decide) (by omega)
    have := Fraction.some (by decide) (by decide) three
    rwa [whole] at this
  split
  · next micro =>
    have whole : n / 1000 * 10 ^ (9 - 6) = n := Nat.div_mul_cancel (Nat.dvd_of_mod_eq_zero micro)
    have six : Digits 6 (n / 1000) (padded 6 (n / 1000)) := digits_padded (by decide) (by omega)
    have := Fraction.some (by decide) (by decide) six
    rwa [whole] at this
  · have nine : Digits 9 n (padded 9 n) := digits_padded (by decide) lt
    have := Fraction.some (by decide) (by decide) nine
    rwa [Nat.sub_self, Nat.pow_zero, Nat.mul_one] at this

/-- The parts that are printed have a text, if the year has four digits. -/
theorem fits_shownParts {t : Instant} (h : t.Proper)
    (year : 0 ≤ (Date.ofDays (t.seconds / 86400)).year ∧ (Date.ofDays (t.seconds / 86400)).year ≤ 9999) :
    (shownParts t).Fits where
  date := Date.valid_ofDays h.year.1 h.year.2
  year := year
  hour := by
    simp only [shownParts]
    omega
  minute := by
    simp only [shownParts]
    omega
  second := by
    have := h.nanos
    simp only [shownParts, shownSecond]
    split <;> omega
  utc := rfl

/-- An instant of a year with four digits is printed in the format. -/
theorem written_print {t : Instant} (h : t.Proper)
    (year : 0 ≤ (Date.ofDays (t.seconds / 86400)).year ∧ (Date.ofDays (t.seconds / 86400)).year ≤ 9999) :
    Written (shownParts t) t.print := by
  have fits := fits_shownParts h year
  have four := fits.year
  obtain ⟨-, month_le, -, day_le⟩ := valid_month_day fits.date
  have hour := fits.hour
  have minute := fits.minute
  have second := fits.second
  have nanos := h.nanos
  have fraction : shownNanos t < 1000000000 := by
    unfold shownNanos
    split <;> omega
  have printed : t.print = padded 4 (shownParts t).date.year.toNat ++
      ('-' :: (padded 2 (shownParts t).date.month ++ ('-' :: (padded 2 (shownParts t).date.day ++
      ('T' :: (padded 2 (shownParts t).hour ++ (':' :: (padded 2 (shownParts t).minute ++
      (':' :: (padded 2 (shownParts t).second ++
      (printFraction (shownParts t).nanos ++ ['Z']))))))))))) := by
    simp only [print, printYear, if_pos year, shownParts, shownSecond, shownNanos, List.append_assoc,
      List.cons_append]
  rw [printed]
  exact .intro fits (digits_padded (by decide) (by omega)) (digits_padded (by decide) (by omega))
    (digits_padded (by decide) (by omega)) (digits_padded (by decide) (by omega))
    (digits_padded (by decide) (by omega)) (digits_padded (by decide) (by omega))
    (written_fraction fraction)

/-! ## What is written so is read -/

section
variable {width n : Nat} {cs rest : List Char}

theorem Digits.number (h : Digits width n cs) (fits : n < pow2 63) (stops : Stops rest) :
    Instant.number width width (cs ++ rest) = .ok (n, rest) := by
  have scanned := number_digits h.all (Nat.le_of_eq h.length.symm) (Nat.le_of_eq h.length)
    (h.value.symm ▸ fits) stops
  rwa [h.value] at scanned

theorem Digits.part (h : Digits width n cs) {low high : Nat} (hlow : low ≤ n) (hhigh : n ≤ high)
    (lt : n < 100) (stops : Stops rest) :
    Instant.part width width low high (cs ++ rest) = .ok (n, rest) := by
  rw [Instant.part, bind_ok (h.number (lt_pow2_63 (by omega)) stops)]
  simp only [hlow, hhigh, decide_true, Bool.and_self, if_true]
  rfl

theorem literal_cons (c : Char) (rest : List Char) : literal c (c :: rest) = .ok ((), rest) := by
  simp [literal]

theorem Fraction.stops (h : Fraction n cs) : Stops (cs ++ ['Z']) := by
  cases h <;> exact stops_cons (by decide)

theorem Fraction.scanned (h : Fraction n cs) : fraction (cs ++ ['Z']) = .ok (n, ['Z']) := by
  cases h with
  | none => rfl
  | some pos le digits =>
    have ne := List.ne_nil_of_length_pos (Nat.lt_of_lt_of_eq pos digits.length.symm)
    rw [List.cons_append, fraction_digits digits.all ne (by have := digits.length; omega)
      (stops_cons (by decide)), digits.value, digits.length]
    rfl

end

/-- A text in the format is scanned as its parts. -/
theorem strictParts_written {p : Parts} {s : List Char} (h : Written p s) :
    strictParts s = .ok (p, []) := by
  obtain @⟨year, month, day, hour, minute, second, fraction, fits, y, mo, d, h, mi, s, f⟩ := h
  have four := fits.year
  obtain ⟨month_pos, month_le, day_pos, day_le⟩ := valid_month_day fits.date
  have hour_le := fits.hour
  have minute_le := fits.minute
  have second_le := fits.second
  have dash (cs : List Char) : Stops ('-' :: cs) := stops_cons (by decide)
  have colon (cs : List Char) : Stops (':' :: cs) := stops_cons (by decide)
  have whole : (⟨⟨p.date.year.toNat, p.date.month, p.date.day⟩, p.hour, p.minute, p.second, p.nanos, 0⟩ :
      Parts) = p := by
    rw [Int.toNat_of_nonneg four.1, ← fits.utc]
  unfold strictParts
  rw [bind_ok (y.number (lt_pow2_63 (by omega)) (dash _)), bind_ok (literal_cons '-' _),
    bind_ok (mo.part month_pos month_le (by omega) (dash _)), bind_ok (literal_cons '-' _),
    bind_ok (d.part day_pos day_le (by omega) (stops_cons (by decide))), bind_ok rfl,
    bind_ok (h.part (by omega) hour_le (by omega) (colon _)), bind_ok (literal_cons ':' _),
    bind_ok (mi.part (by omega) minute_le (by omega) (colon _)), bind_ok (literal_cons ':' _),
    bind_ok (s.part (by omega) second_le (by omega) f.stops), bind_ok f.scanned, bind_ok rfl]
  exact congrArg (fun p => Except.ok (p, [])) whole

/-- A text in the format is read as its parts. -/
theorem readStrict_written {p : Parts} {s : List Char} (h : Written p s) : readStrict s = ofParts p := by
  rw [readStrict, strictParts_written h]
  rfl

/-- An instant of a year with four digits is read back from what was printed of it. -/
theorem readStrict_print {t : Instant} (h : t.Proper)
    (year : 0 ≤ (Date.ofDays (t.seconds / 86400)).year ∧ (Date.ofDays (t.seconds / 86400)).year ≤ 9999) :
    readStrict t.print = .ok t := by
  rw [readStrict_written (written_print h year), ofParts_shownParts h]

/-- Four digits are enough for the year 0, and no fraction is printed of a whole second. -/
example : String.ofList (print ⟨-62167219200, 0⟩) = "0000-01-01T00:00:00Z" := by decide +kernel

/-! ## Milliseconds -/

/-- The instant `n` milliseconds after the beginning of 1970. -/
def ofMillis (n : Int) : Instant := ⟨n / 1000, (n % 1000).toNat * 1000000⟩

section
variable {n : Int}

theorem day_ofMillis (n : Int) : (ofMillis n).seconds / 86400 = n / 86400000 := by
  simp only [ofMillis]
  omega

/-- It lies exactly so long after the beginning of 1970. -/
theorem exact_ofMillis (n : Int) : (ofMillis n).nanos < 1000000000 ∧
    (ofMillis n).seconds * 1000000000 + (ofMillis n).nanos = n * 1000000 := by
  simp only [ofMillis]
  omega

/-- What is shown of it names this moment. -/
theorem moment_ofMillis (n : Int) : (shownParts (ofMillis n)).moment = n * 1000000 := by
  obtain ⟨no_leap, exact⟩ := exact_ofMillis n
  rw [← exact]
  simp only [Parts.moment, shownParts, shownSecond, shownNanos, if_neg (Nat.not_le_of_lt no_leap),
    Date.toDays_ofDays]
  omega

/-- The milliseconds of the years with four digits. -/
theorem millis_bounds (year : 0 ≤ (Date.ofDays (n / 86400000)).year ∧
    (Date.ofDays (n / 86400000)).year ≤ 9999) : -62167219200000 ≤ n ∧ n < 253402300800000 := by
  have := (Date.year_mem_iff _).mp year
  omega

theorem ofMillis?_of_year (year : 0 ≤ (Date.ofDays (n / 86400000)).year ∧
    (Date.ofDays (n / 86400000)).year ≤ 9999) : ofMillis? n = some (ofMillis n) := by
  have handled : (ofMillis n).inRange = true := by
    have low : Date.minYear ≤ 0 := by decide
    have high : 9999 ≤ Date.maxYear := by decide
    simp only [inRange, day_ofMillis, Bool.and_eq_true, decide_eq_true_iff]
    omega
  rw [ofMillis?]
  exact if_pos handled

end

end Instant

namespace Payload
open Json (Value Object)
open Instant (Written shownParts)
open Text.Utf8 (encode)

/-! ## Payloads -/

/-- No tag key finds a list or an object. -/
def Flat (l : Layout) (o : Object) : Prop :=
  ∀ k ∈ l.tagKeys, ∀ v, tagged l o k = some v → isNested v = false

/-- Where the value for the time is `v`, the time is `t`. -/
structure Dates (l : Layout) (v : Value) (t : Instant) : Prop where
  /-- It is never at fault: an object makes a record unless a tag key finds a list or an object. -/
  made : ∀ o, timed l o = some v → ((∃ r, record l o = .ok r) ↔ Flat l o)
  time : ∀ o r, timed l o = some v → record l o = .ok r → r.timestamp = some t
  payload : ∀ payload o, Json.read payload = .ok (.object o) → timed l o = some v → Flat l o →
    ∃ r, parse l payload = .ok [r] ∧ r.timestamp = some t
  /-- A payload with the time alone is accepted. -/
  alone : ∀ k, l.timeKey = some k → l.nameKey ≠ some k →
    ∃ r, parse l (encode (Value.object [(k, v)]).print) = .ok [r] ∧ r.timestamp = some t

/-- A value tells one time at most. -/
theorem Tells.unique {v : Value} {t t' : Instant} (h : Tells v t) (h' : Tells v t') : t' = t := by
  rw [← timestamp_ok_iff] at h h'
  exact (Except.ok.inj (h.symm.trans h')).symm

theorem timed_alone {l : Layout} {k : String} (time : l.timeKey = some k) (name : l.nameKey ≠ some k)
    (v : Value) : timed l [(k, v)] = some v := by
  rw [timed, time, Option.bind_some, if_neg name, Keyed.get?, if_pos rfl]

/-- The time is taken before the tags, also from a tag key. -/
theorem flat_alone {l : Layout} {k : String} (time : l.timeKey = some k) (v : Value) :
    Flat l [(k, v)] := by
  intro k' _ v' found
  rw [tagged] at found
  split at found
  · next other =>
    have apart : k ≠ k' := fun same => other.2 (time.trans (congrArg some same))
    rw [Keyed.get?, if_neg apart] at found
    cases found
  · cases found

/-- A value that tells a time dates every payload where it stands for the time. -/
theorem Tells.dates {v : Value} {t : Instant} (h : Tells v t) (regular : Json.Regular v)
    (shallow : v.nesting = 0) (l : Layout) : Dates l v t := by
  have made (o : Object) (ht : timed l o = some v) : (∃ r, record l o = .ok r) ↔ Flat l o := by
    rw [(division l o).makes]
    exact and_iff_right fun v' taken => ⟨t, Option.some.inj (ht.symm.trans taken) ▸ h⟩
  have time (o : Object) (r : Record) (ht : timed l o = some v) (hr : record l o = .ok r) :
      r.timestamp = some t := by
    obtain ⟨t', told, stamp⟩ := (record_ok_iff.mp hr).2.2.time v ht
    rw [stamp, h.unique told]
  have payload (payload : List UInt8) (o : Object) (read : Json.read payload = .ok (.object o))
      (ht : timed l o = some v) (flat : Flat l o) :
      ∃ r, parse l payload = .ok [r] ∧ r.timestamp = some t := by
    obtain ⟨r, hr⟩ := (made o ht).mpr flat
    refine ⟨r, ?_, time o r ht hr⟩
    rw [parse_object read, hr]
    rfl
  refine ⟨made, time, payload, fun k hk hn => ?_⟩
  have read : Json.read (encode (Value.object [(k, v)]).print) = .ok (.object [(k, v)]) :=
    Json.read_print (List.pairwise_singleton _ _) (fun e he => List.mem_singleton.mp he ▸ regular)
      (by simp [Value.nesting, Json.nestingEntries, shallow, Json.depthLimit])
  exact payload _ _ read (timed_alone hk hn v) (flat_alone hk v)

/-- The line of a record ends with its time. -/
theorem line_dated {r : Record} {t : Instant} (stamp : r.timestamp = some t) : ∃ front,
    r.line = front ++ (',' :: Record.lineKey "timestamp" ++ '"' :: t.print ++ ['"', '\x7d']) := by
  obtain ⟨front, line⟩ : ∃ front, r.line = front ++
      (',' :: Record.lineKey "timestamp" ++ '"' :: t.print ++ ['"']) ++ ['\x7d'] := by
    rw [Record.line, stamp]
    exact ⟨_, rfl⟩
  refine ⟨front, ?_⟩
  rw [line]
  simp only [List.append_assoc, List.cons_append, List.nil_append]

/-- **Milliseconds and dates tell the same times.** Of every whole number of milliseconds within the
years of four digits, the time is taken that lies exactly so long after the beginning of 1970; the line
of a record with this time ends with a date in the Internet format that names this moment; and this
date tells the same time. -/
theorem forms_agree (l : Layout) {n : Int} (year : 0 ≤ (Date.ofDays (n / 86400000)).year ∧
    (Date.ofDays (n / 86400000)).year ≤ 9999) :
    ∃ (t : Instant) (text : String),
      (t.nanos < 1000000000 ∧ t.seconds * 1000000000 + t.nanos = n * 1000000) ∧
      Dates l (.number (.whole n)) t ∧
      (∀ r : Record, r.timestamp = some t → ∃ front, r.line = front ++
        (',' :: Record.lineKey "timestamp" ++ '"' :: text.toList ++ ['"', '\x7d'])) ∧
      (∃ p, Written p text.toList ∧ p.moment = n * 1000000) ∧
      Dates l (.string text) t := by
  have millis := Instant.ofMillis?_of_year year
  have proper := Instant.proper_of_ofMillis millis
  have bounds := Instant.millis_bounds year
  have fits : n < pow2 63 := Int.lt_trans bounds.2 (by decide)
  have inRange : (Json.Number.whole n).InRange := ⟨by omega, by omega⟩
  rw [← Instant.day_ofMillis] at year
  refine ⟨Instant.ofMillis n, String.ofList (Instant.ofMillis n).print, Instant.exact_ofMillis n,
    (Tells.millis fits millis).dates (.number inRange) rfl l, fun r stamp => ?_,
    ⟨shownParts (Instant.ofMillis n), ?_, Instant.moment_ofMillis n⟩,
    (Tells.date ?_).dates (.string _) rfl l⟩
  · rw [String.toList_ofList]
    exact line_dated stamp
  · rw [String.toList_ofList]
    exact Instant.written_print proper year
  · rw [String.toList_ofList]
    exact Instant.readStrict_print proper year

/-- The last millisecond of 1969. -/
theorem forms_agree_before_epoch :
    let l : Layout := { Layout.standard with timeKey := some "ts" }
    let payload := encode (Value.object [("ts", .number (.whole (-1))), ("v", .null)]).print
    (0 ≤ (Date.ofDays (-1 / 86400000)).year ∧ (Date.ofDays (-1 / 86400000)).year ≤ 9999) ∧
      ∃ (t : Instant) (text : String), t.seconds * 1000000000 + t.nanos = -1 * 1000000 ∧
        (∃ r, parse l payload = .ok [r] ∧ r.timestamp = some t) ∧
        (∃ p, Written p text.toList ∧ p.moment = -1 * 1000000) ∧
        ∃ r, parse l (encode (Value.object [("ts", .string text)]).print) = .ok [r] ∧
          r.timestamp = some t := by
  intro l payload
  have year : 0 ≤ (Date.ofDays (-1 / 86400000)).year ∧ (Date.ofDays (-1 / 86400000)).year ≤ 9999 := by
    decide
  have regular : ∀ e ∈ [("ts", Value.number (.whole (-1))), ("v", .null)], Json.Regular e.2 := by
    rintro _ (_ | ⟨_, _ | ⟨_, ⟨⟩⟩⟩)
    · exact .number ⟨by decide, by decide⟩
    · exact .null
  have read := Json.read_print (by decide) regular (by decide)
  obtain ⟨t, text, ⟨-, exact⟩, millis, -, written, date⟩ := forms_agree l year
  exact ⟨year, t, text, exact, millis.payload payload _ read rfl nofun, written,
    date.alone "ts" rfl nofun⟩

end Payload
end Sluice
