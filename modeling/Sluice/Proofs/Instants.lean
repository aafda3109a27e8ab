import Mathlib.Algebra.Group.Nat.Defs
import Sluice.Payload
import Sluice.Proofs.Calendar
/-!
# Printed instants are read back

An instant is printed in UTC with the digits it needs. The reader that takes signed years and short
parts reads every part as far as its digits go, and each part is followed by something that is no
digit. So it reads the parts that were printed, and these make up the instant again.

* `Proper`: instants of dates that can be handled, with a leap second only at the end of a minute.
* `proper_of_timestamp`: the instants that payloads hold are proper.
* `number_padded`, `fraction_print`, `signedYear_print`: what the scanners make of printed digits.
* `readRelaxed_print`: a proper instant is read back from what was printed of it.
-/
namespace Sluice.Instant

/-- A date that can be handled, and nanoseconds of a second, or of a leap second if the minute ends. -/
structure Proper (t : Instant) : Prop where
  inRange : t.inRange = true
  nanos : t.nanos < 1000000000 ∨ t.nanos < 2000000000 ∧ t.seconds % 60 = 59

/-! ## Scanners -/

section
variable {α β : Type} {p : Scanner α} {f : α → Scanner β} {s s' : List Char} {a : α}

theorem bind_ok (h : p s = .ok (a, s')) : (p >>= f) s = f a s' := by
  show StateT.bind p f s = _
  rw [StateT.bind, h]
  rfl

theorem bind_ok_inv {b : β} (h : (p >>= f) s = .ok (b, s')) :
    ∃ a s₁, p s = .ok (a, s₁) ∧ f a s₁ = .ok (b, s') := by
  change StateT.bind p f s = _ at h
  rw [StateT.bind] at h
  cases hp : p s with
  | error e =>
    rw [hp] at h
    cases h
  | ok x =>
    rw [hp] at h
    exact ⟨x.1, x.2, rfl, h⟩

end

theorem length_le_utf8ByteSize (cs : List Char) : cs.length ≤ (String.ofList cs).utf8ByteSize := by
  induction cs with
  | nil => exact Nat.zero_le _
  | cons c cs ih =>
    rw [String.ofList_cons, String.utf8ByteSize_append, String.utf8ByteSize_singleton]
    have := c.utf8Size_pos
    rw [List.length_cons]
    omega

theorem shorterThan_eq_false {n : Nat} {s : List Char} (h : n ≤ s.length) : shorterThan n s = false := by
  have := length_le_utf8ByteSize (s.take n)
  rw [List.length_take] at this
  rw [shorterThan, decide_eq_false_iff_not]
  omega

/-- No digit stands at the front. -/
def Stops (s : List Char) : Prop := ∀ c cs, s = c :: cs → c.isDigit = false

theorem stops_cons {c : Char} {cs : List Char} (h : c.isDigit = false) : Stops (c :: cs) := by
  rintro _ _ ⟨⟩
  exact h

theorem digits_stops {max value count : Nat} {s : List Char} (h : Stops s) :
    digits max value count s = (value, count, s) := by
  cases s with
  | nil => rfl
  | cons c cs => simp [digits, h c cs rfl]

/-- Digits are read up to something that is no digit. -/
theorem digits_append {cs : List Char} (all : ∀ c ∈ cs, c.isDigit) {max value count : Nat}
    (room : count + cs.length ≤ max) {rest : List Char} (stops : Stops rest) :
    digits max value count (cs ++ rest) =
      (Nat.ofDigitChars 10 cs value, count + cs.length, rest) := by
  induction cs generalizing value count with
  | nil => exact digits_stops stops
  | cons c cs ih =>
    rw [List.length_cons] at room
    have more : count < max := by omega
    rw [List.cons_append, digits, Nat.ofDigitChars_cons]
    simp only [all c List.mem_cons_self, more, decide_true, Bool.and_self, if_true]
    rw [ih (fun d hd => all d (List.mem_cons_of_mem c hd)) (by omega), List.length_cons,
      Nat.mul_comm 10, Nat.add_assoc, Nat.add_comm 1]
    rfl

theorem isDigit_of_mem_padded {width n : Nat} {c : Char} (h : c ∈ padded width n) : c.isDigit := by
  rcases List.mem_append.mp h with h | h
  · rw [List.eq_of_mem_replicate h]
    decide
  · exact Nat.isDigit_of_mem_toDigits (by decide) (by decide) h

theorem ofDigitChars_padded (width n : Nat) : Nat.ofDigitChars 10 (padded width n) 0 = n := by
  rw [padded, Nat.ofDigitChars_append, Nat.ofDigitChars_replicate_zero, Nat.mul_zero,
    Nat.ofDigitChars_ten_toDigits]

theorem length_padded {width n : Nat} (pos : 0 < width) (h : n < 10 ^ width) :
    (padded width n).length = width := by
  have := (Nat.length_toDigits_le_iff (b := 10) (n := n) (by decide) pos).mpr h
  rw [padded, List.length_append, List.length_replicate]
  omega

theorem le_length_padded (width n : Nat) : width ≤ (padded width n).length := by
  rw [padded, List.length_append, List.length_replicate]
  omega

/-- Digits are scanned as the number they make up. -/
theorem number_digits {cs : List Char} (all : ∀ c ∈ cs, c.isDigit) {min max : Nat}
    (low : min ≤ cs.length) (high : cs.length ≤ max) (fits : Nat.ofDigitChars 10 cs 0 < pow2 63)
    {rest : List Char} (stops : Stops rest) :
    number min max (cs ++ rest) = .ok (Nat.ofDigitChars 10 cs 0, rest) := by
  have long : shorterThan min (cs ++ rest) = false :=
    shorterThan_eq_false (by rw [List.length_append]; omega)
  rw [number, long, digits_append all (by omega) stops]
  simp only [Bool.false_eq_true, if_false, Nat.zero_add]
  rw [if_neg (Nat.not_le_of_lt fits), if_neg (Nat.not_lt_of_le low)]

/-- A printed number is scanned as the number. -/
theorem number_padded {min max width n : Nat} (low : min ≤ (padded width n).length)
    (high : (padded width n).length ≤ max) (fits : n < pow2 63) {rest : List Char}
    (stops : Stops rest) : number min max (padded width n ++ rest) = .ok (n, rest) := by
  have value := ofDigitChars_padded width n
  have scanned := number_digits (fun c => isDigit_of_mem_padded) low high (value.symm ▸ fits) stops
  rwa [value] at scanned

/-! ## Parts -/

theorem blanks_cons {c : Char} (h : Text.isBlank c = false) (cs : List Char) :
    blanks (c :: cs) = .ok ((), c :: cs) := by
  rw [blanks, Text.trimLeft, List.dropWhile_cons_of_neg (by simp [h])]

theorem digit_range {c : Char} (h : c.isDigit) : 48 ≤ c.toNat ∧ c.toNat ≤ 57 := by
  simp only [Char.isDigit, Bool.and_eq_true, decide_eq_true_iff, UInt32.le_iff_toNat_le] at h
  exact h

theorem isBlank_digit {c : Char} (h : c.isDigit) : Text.isBlank c = false := by
  have := digit_range h
  simp [Text.isBlank]
  omega

/-- A printed number begins with a digit. -/
theorem padded_cons {width : Nat} (pos : 0 < width) (n : Nat) :
    ∃ c cs, padded width n = c :: cs ∧ c.isDigit := by
  cases h : padded width n with
  | nil =>
    have := le_length_padded width n
    rw [h, List.length_nil] at this
    omega
  | cons c cs => exact ⟨c, cs, rfl, isDigit_of_mem_padded (h ▸ List.mem_cons_self)⟩

theorem blanks_padded {width : Nat} (pos : 0 < width) (n : Nat) (rest : List Char) :
    blanks (padded width n ++ rest) = .ok ((), padded width n ++ rest) := by
  obtain ⟨c, cs, h, digit⟩ := padded_cons pos n
  rw [h, List.cons_append, blanks_cons (isBlank_digit digit)]

theorem lt_pow2_63 {n : Nat} (h : n < 10 ^ 9) : n < pow2 63 :=
  Nat.lt_trans h (by decide)

theorem shortPart_padded {low high n : Nat} (hlow : low ≤ n) (hhigh : n ≤ high) (lt : n < 100)
    {rest : List Char} (stops : Stops rest) :
    shortPart low high (padded 2 n ++ rest) = .ok (n, rest) := by
  have length : (padded 2 n).length = 2 := length_padded (by decide) lt
  rw [shortPart, bind_ok (blanks_padded (by decide) n rest), part,
    bind_ok (number_padded (by omega) (by omega) (lt_pow2_63 (by omega)) stops)]
  simp only [hlow, hhigh, decide_true, Bool.and_self, if_true]
  rfl

theorem looseLiteral_cons {c : Char} (h : Text.isBlank c = false) (rest : List Char) :
    looseLiteral c (c :: rest) = .ok ((), rest) := by
  rw [looseLiteral, bind_ok (blanks_cons h rest), literal]
  simp

theorem signedYear_unsigned {c : Char} (digit : c.isDigit) (cs : List Char) :
    signedYear (c :: cs) = (number 1 4 >>= fun n => pure (n : Int)) (c :: cs) := by
  rw [signedYear, bind_ok (blanks_cons (isBlank_digit digit) cs), bind_ok rfl]
  refine congrFun ?_ _
  split
  case h_1 eq => exact absurd (by cases eq; exact digit) (by decide : ¬('-').isDigit = true)
  case h_2 eq => exact absurd (by cases eq; exact digit) (by decide : ¬('+').isDigit = true)
  rfl

/-- A printed year is scanned as the year. -/
theorem signedYear_print {y : Int} (low : Date.minYear ≤ y) (high : y ≤ Date.maxYear)
    {rest : List Char} (stops : Stops rest) :
    signedYear (printYear y ++ rest) = .ok (y, rest) := by
  have bounds : -262143 ≤ y ∧ y ≤ 262142 := ⟨low, high⟩
  have limit : pow2 31 = 2147483648 := rfl
  rw [printYear]
  split
  · next four =>
    have length : (padded 4 y.toNat).length = 4 := length_padded (by decide) (by omega)
    have scanned : number 1 4 (padded 4 y.toNat ++ rest) = .ok (y.toNat, rest) :=
      number_padded (by omega) (by omega) (lt_pow2_63 (by omega)) stops
    obtain ⟨c, cs, head, digit⟩ := padded_cons (show 0 < 4 by decide) y.toNat
    rw [head, List.cons_append] at scanned ⊢
    rw [signedYear_unsigned digit, bind_ok scanned, Int.toNat_of_nonneg four.1]
    rfl
  · have long := le_length_padded 4 y.natAbs
    have scanned : number 1 ((padded 4 y.natAbs ++ rest).length + 1) (padded 4 y.natAbs ++ rest) =
        .ok (y.natAbs, rest) :=
      number_padded (by omega) (by rw [List.length_append]; omega) (lt_pow2_63 (by omega)) stops
    split
    · have fits : ¬y.natAbs > pow2 31 := by omega
      have value : -Int.ofNat y.natAbs = y := by simp only [Int.ofNat_eq_natCast]; omega
      rw [signedYear, List.cons_append, bind_ok (blanks_cons (by decide) _), bind_ok rfl]
      simp only
      rw [bind_ok rfl, List.length_cons, bind_ok scanned, if_neg fits, value]
      rfl
    · have fits : ¬y.natAbs ≥ pow2 31 := by omega
      have value : (y.natAbs : Int) = y := by omega
      rw [signedYear, List.cons_append, bind_ok (blanks_cons (by decide) _), bind_ok rfl]
      simp only
      rw [bind_ok rfl, List.length_cons, bind_ok scanned, if_neg fits, value]
      rfl

/-- Digits after a point are scanned as nanoseconds. -/
theorem fraction_digits {cs : List Char} (all : ∀ c ∈ cs, c.isDigit) (ne : cs ≠ [])
    (le : cs.length ≤ 9) {rest : List Char} (stops : Stops rest) :
    fraction ('.' :: (cs ++ rest)) =
      .ok (Nat.ofDigitChars 10 cs 0 * pow10 (9 - cs.length), rest) := by
  have rest_stays : rest.dropWhile Char.isDigit = rest := by
    cases rest with
    | nil => rfl
    | cons c cs => rw [List.dropWhile_cons_of_neg (by simp [stops c cs rfl])]
  have some_text : (cs ++ rest).isEmpty = false := by
    rw [List.isEmpty_eq_false_iff]
    exact List.append_ne_nil_of_left_ne_nil ne rest
  have scanned : digits 9 0 0 (cs ++ rest) = (Nat.ofDigitChars 10 cs 0, 0 + cs.length, rest) :=
    digits_append all (by omega) stops
  have not_zero : (cs.length == 0) = false := by
    rw [beq_eq_false_iff_ne, ne_eq, List.length_eq_zero_iff]
    exact ne
  simp only [fraction, some_text, scanned, not_zero, Nat.zero_add, rest_stays, Bool.false_eq_true,
    if_false]

/-- A printed fraction is scanned as its nanoseconds. -/
theorem fraction_padded {width k : Nat} (pos : 0 < width) (le : width ≤ 9) (lt : k < 10 ^ width)
    {rest : List Char} (stops : Stops rest) :
    fraction ('.' :: (padded width k ++ rest)) = .ok (k * pow10 (9 - width), rest) := by
  have length := length_padded pos lt
  have ne : padded width k ≠ [] := List.ne_nil_of_length_pos (by omega)
  have scanned := fraction_digits (fun c => isDigit_of_mem_padded) ne (by omega) stops
  rwa [length, ofDigitChars_padded] at scanned

theorem stops_printFraction (n : Nat) : Stops (printFraction n ++ ['Z']) := by
  unfold printFraction
  repeat' split
  all_goals exact stops_cons (by decide)

theorem fraction_print {n : Nat} (lt : n < 1000000000) (rest : List Char) :
    fraction (printFraction n ++ 'Z' :: rest) = .ok (n, 'Z' :: rest) := by
  have stops : Stops ('Z' :: rest) := stops_cons (by decide)
  rw [printFraction]
  simp only [beq_iff_eq]
  split
  · next zero =>
    rw [zero]
    rfl
  split
  · next milli =>
    rw [List.cons_append, fraction_padded (by decide) (by decide) (by omega) stops]
    have : n / 1000000 * pow10 (9 - 3) = n := Nat.div_mul_cancel (Nat.dvd_of_mod_eq_zero milli)
    rw [this]
  split
  · next micro =>
    rw [List.cons_append, fraction_padded (by decide) (by decide) (by omega) stops]
    have : n / 1000 * pow10 (9 - 6) = n := Nat.div_mul_cancel (Nat.dvd_of_mod_eq_zero micro)
    rw [this]
  · rw [List.cons_append, fraction_padded (by decide) (by decide) lt stops]
    have : n * pow10 (9 - 9) = n := Nat.mul_one n
    rw [this]

/-! ## Whole instants -/

/-- The second that is printed: sixty for a leap second. -/
def shownSecond (t : Instant) : Nat :=
  let s := (t.seconds % 86400).toNat
  if 1000000000 ≤ t.nanos then s % 60 + 1 else s % 60

/-- The fraction that is printed: what a leap second has beyond its second. -/
def shownNanos (t : Instant) : Nat :=
  if 1000000000 ≤ t.nanos then t.nanos - 1000000000 else t.nanos

/-- The parts that are printed of an instant. -/
def shownParts (t : Instant) : Parts :=
  let s := (t.seconds % 86400).toNat
  ⟨Date.ofDays (t.seconds / 86400), s / 3600, s / 60 % 60, shownSecond t, shownNanos t, 0⟩

theorem Proper.year {t : Instant} (h : t.Proper) :
    Date.minYear ≤ (Date.ofDays (t.seconds / 86400)).year ∧
      (Date.ofDays (t.seconds / 86400)).year ≤ Date.maxYear := by
  have handled := h.inRange
  simp only [Instant.inRange, Bool.and_eq_true, decide_eq_true_iff] at handled
  exact handled

theorem valid_month_day {d : Date} (h : d.valid = true) :
    1 ≤ d.month ∧ d.month ≤ 12 ∧ 1 ≤ d.day ∧ d.day ≤ 31 := by
  simp only [Date.valid, Bool.and_eq_true, decide_eq_true_iff] at h
  have : Date.daysIn d.year d.month ≤ 31 := by
    unfold Date.daysIn
    split
    · split <;> omega
    all_goals omega
  omega

theorem relaxedParts_print {t : Instant} (h : t.Proper) :
    relaxedParts t.print = .ok (shownParts t, []) := by
  have year := h.year
  obtain ⟨month_pos, month_le, day_pos, day_le⟩ := valid_month_day (Date.valid_ofDays year.1 year.2)
  have time : t.seconds % 86400 < 86400 ∧ 0 ≤ t.seconds % 86400 := by omega
  have nanos := h.nanos
  have second : shownSecond t ≤ 60 := by
    unfold shownSecond
    simp only
    split <;> omega
  have fraction : shownNanos t < 1000000000 := by
    unfold shownNanos
    split <;> omega
  have second_fits : shownSecond t < 100 := by omega
  have dash (cs : List Char) : Stops ('-' :: cs) := stops_cons (by decide)
  have colon (cs : List Char) : Stops (':' :: cs) := stops_cons (by decide)
  have printed : t.print = printYear (Date.ofDays (t.seconds / 86400)).year ++
      ('-' :: (padded 2 (Date.ofDays (t.seconds / 86400)).month ++
      ('-' :: (padded 2 (Date.ofDays (t.seconds / 86400)).day ++
      ('T' :: (padded 2 ((t.seconds % 86400).toNat / 3600) ++
      (':' :: (padded 2 ((t.seconds % 86400).toNat / 60 % 60) ++
      (':' :: (padded 2 (shownSecond t) ++ (printFraction (shownNanos t) ++ ['Z']))))))))))) := by
    simp only [print, shownSecond, shownNanos, List.append_assoc, List.cons_append]
  unfold relaxedParts
  rw [printed, bind_ok (signedYear_print year.1 year.2 (dash _)),
    bind_ok (looseLiteral_cons (by decide) _),
    bind_ok (shortPart_padded month_pos month_le (by omega) (dash _)),
    bind_ok (looseLiteral_cons (by decide) _),
    bind_ok (shortPart_padded day_pos day_le (by omega) (stops_cons (by decide))), bind_ok rfl,
    bind_ok rfl, bind_ok (shortPart_padded (by omega) (by omega) (by omega) (colon _)),
    bind_ok (looseLiteral_cons (by decide) _),
    bind_ok (shortPart_padded (by omega) (by omega) (by omega) (colon _)),
    bind_ok (looseLiteral_cons (by decide) _),
    bind_ok (shortPart_padded (by omega) second second_fits (stops_printFraction _)),
    bind_ok (fraction_print fraction []), bind_ok (blanks_cons (by decide) []), bind_ok rfl]
  rfl

/-- The parts that are printed of an instant make it up. -/
theorem ofParts_shownParts {t : Instant} (h : t.Proper) : ofParts (shownParts t) = .ok t := by
  obtain ⟨s, hs⟩ : ∃ s, s = (t.seconds % 86400).toNat := ⟨_, rfl⟩
  have time : (s : Int) = t.seconds % 86400 := by omega
  have valid : (shownParts t).date.valid = true := Date.valid_ofDays h.year.1 h.year.2
  have days : (shownParts t).date.toDays = t.seconds / 86400 := Date.toDays_ofDays _
  have nanos := h.nanos
  have seconds : t.seconds / 86400 * 86400 + Int.ofNat (s / 3600 * 3600 + s / 60 % 60 * 60 + s % 60) -
      0 = t.seconds := by
    rw [Int.ofNat_eq_natCast]
    omega
  have handled := h.inRange
  rw [ofParts, valid, days]
  simp only [shownParts, shownSecond, shownNanos, ← hs]
  by_cases leap : 1000000000 ≤ t.nanos
  · have ends : s % 60 = 59 := by omega
    have shown : (s % 60 + 1 == 60) = true := by rw [ends]; rfl
    rw [ends] at seconds
    simp only [if_pos leap, shown, if_true, seconds, Nat.sub_add_cancel leap, handled]
    rfl
  · have shown : (s % 60 == 60) = false := by rw [beq_eq_false_iff_ne]; omega
    simp only [if_neg leap, shown, Bool.false_eq_true, if_false, seconds, handled]
    rfl

/-- A proper instant is read back from what was printed of it. -/
theorem readRelaxed_print {t : Instant} (h : t.Proper) : readRelaxed t.print = .ok t := by
  rw [readRelaxed, relaxedParts_print h]
  exact ofParts_shownParts h

/-! ## The instants of payloads -/

theorem digits_lt {max value count value' count' : Nat} {s s' : List Char}
    (h : digits max value count s = (value', count', s')) (lt : value < 10 ^ count)
    (le : count ≤ max) : value' < 10 ^ count' ∧ count' ≤ max := by
  induction s generalizing value count with
  | nil =>
    cases h
    exact ⟨lt, le⟩
  | cons c cs ih =>
    rw [digits] at h
    split at h
    · next digit =>
      simp only [Bool.and_eq_true, decide_eq_true_iff] at digit
      have range := digit_range digit.2
      exact ih h (by rw [Nat.pow_succ]; omega) digit.1
    · cases h
      exact ⟨lt, le⟩

theorem fraction_lt {n : Nat} {s s' : List Char} (h : fraction s = .ok (n, s')) : n < 1000000000 := by
  unfold fraction at h
  split at h
  · next rest =>
    split at h
    · cases h
    · cases hd : digits 9 0 0 rest with
      | mk value more =>
        obtain ⟨count, rest'⟩ := more
        rw [hd] at h
        simp only at h
        split at h
        · cases h
        · cases h
          obtain ⟨lt, le⟩ := digits_lt hd (by decide) (by decide)
          calc value * pow10 (9 - count) < 10 ^ count * 10 ^ (9 - count) :=
                Nat.mul_lt_mul_of_pos_right lt (pow10_pos _)
            _ = 1000000000 := by rw [← Nat.pow_add, Nat.add_sub_cancel' le]
  · cases h
    decide

theorem offset_minutes {between : Scanner Unit} {off : Int} {s s' : List Char}
    (h : offset between s = .ok (off, s')) : off % 60 = 0 := by
  unfold offset at h
  split at h
  · cases h
    rfl
  · cases h
    rfl
  · obtain ⟨negative, s₁, -, h⟩ := bind_ok_inv h
    obtain ⟨hours, s₂, -, h⟩ := bind_ok_inv h
    obtain ⟨-, s₃, -, h⟩ := bind_ok_inv h
    obtain ⟨minutes, s₄, -, h⟩ := bind_ok_inv h
    by_cases sixty : 6 ≤ minutes.1
    · rw [if_pos sixty] at h
      cases h
    · rw [if_neg sixty] at h
      cases h
      simp only [Int.ofNat_eq_natCast]
      split <;> omega

/-- What the exact format can hold. -/
theorem strictParts_inv {p : Parts} {s s' : List Char} (h : strictParts s = .ok (p, s')) :
    p.nanos < 1000000000 ∧ p.offset % 60 = 0 := by
  unfold strictParts at h
  obtain ⟨year, s₁, -, h⟩ := bind_ok_inv h
  obtain ⟨-, s₂, -, h⟩ := bind_ok_inv h
  obtain ⟨month, s₃, -, h⟩ := bind_ok_inv h
  obtain ⟨-, s₄, -, h⟩ := bind_ok_inv h
  obtain ⟨day, s₅, -, h⟩ := bind_ok_inv h
  obtain ⟨-, s₆, -, h⟩ := bind_ok_inv h
  obtain ⟨hour, s₇, -, h⟩ := bind_ok_inv h
  obtain ⟨-, s₈, -, h⟩ := bind_ok_inv h
  obtain ⟨minute, s₉, -, h⟩ := bind_ok_inv h
  obtain ⟨-, s₁₀, -, h⟩ := bind_ok_inv h
  obtain ⟨second, s₁₁, -, h⟩ := bind_ok_inv h
  obtain ⟨nanos, s₁₂, hnanos, h⟩ := bind_ok_inv h
  obtain ⟨off, s₁₃, hoff, h⟩ := bind_ok_inv h
  split at h
  · cases h
  · cases h
    exact ⟨fraction_lt hnanos, offset_minutes hoff⟩

theorem proper_of_ofParts {p : Parts} (nanos : p.nanos < 1000000000)
    (minutes : p.offset % 60 = 0) {t : Instant} (h : ofParts p = .ok t) : t.Proper := by
  rw [ofParts] at h
  split at h
  · cases h
  split at h
  · cases h
  simp only [Int.ofNat_eq_natCast, beq_iff_eq] at h
  split at h
  · split at h
    · next handled =>
      cases h
      exact ⟨handled, .inr (by simp only; omega)⟩
    · cases h
  · split at h
    · next handled =>
      cases h
      exact ⟨handled, .inl nanos⟩
    · cases h

theorem proper_of_ofMillis {n : Int} {t : Instant} (h : ofMillis? n = some t) : t.Proper := by
  rw [ofMillis?] at h
  split at h
  · next handled =>
    cases h
    exact ⟨handled, .inl (by simp only; omega)⟩
  · cases h

/-- The instants that payloads hold are proper. -/
theorem proper_of_timestamp {v : Json.Value} {t : Instant} (h : Payload.timestamp v = .ok t) :
    t.Proper := by
  unfold Payload.timestamp at h
  split at h
  · next s =>
    split at h
    · next read =>
      cases h
      unfold readStrict at read
      split at read
      · cases read
      · next p rest parts =>
        split at read
        · obtain ⟨nanos, minutes⟩ := strictParts_inv parts
          exact proper_of_ofParts nanos minutes read
        · cases read
    · cases h
  · split at h
    · split at h
      · split at h
        · next millis =>
          cases h
          exact proper_of_ofMillis millis
        · cases h
      · cases h
    · cases h
  · cases h

end Sluice.Instant
