import Mathlib.Algebra.Group.Int.Defs
import Sluice.Json.Printer
import Sluice.Json.Reader
import Sluice.Proofs.Text.Utf8
/-!
# Printed whole numbers are read back

The digits of a number of 64 bits can all be gathered, because what they spell up to any of them is no
more than what they all spell.

* `Delimited`: what follows a value inside a list or an object.
* `gather_digits`: digits are gathered up to the end of the number.
* `number_print`: a printed number without its sign is read as the number.
* `wholeNumber_negSucc`: with its sign, it is the number that was printed.
-/
namespace Sluice.Json

open Text.Utf8 (encode encode_cons encode_append encode_nil)

/-- What follows a value inside a list or an object: a comma or a closing bracket. -/
def Delimited (rest : List UInt8) : Prop :=
  ∃ b more, rest = b :: more ∧ (b = 44 ∨ b = 93 ∨ b = 125)

theorem Delimited.peek {rest : List UInt8} (h : Delimited rest) (before : Nat) :
    isDigit (Cursor.peek ⟨before, rest⟩) = false ∧ (Cursor.peek ⟨before, rest⟩ == 46) = false ∧
      isExponentMark (Cursor.peek ⟨before, rest⟩) = false := by
  obtain ⟨b, more, rfl, rfl | rfl | rfl⟩ := h <;> exact ⟨rfl, rfl, rfl⟩

/-- The byte of a digit. -/
theorem encodeChar_digit {c : Char} (h : c.isDigit) : ∃ b, String.utf8EncodeChar c = [b] ∧
    isDigit b = true ∧ b.toNat = c.toNat := by
  have range : 48 ≤ c.toNat ∧ c.toNat ≤ 57 := by
    simp only [Char.isDigit, Bool.and_eq_true, decide_eq_true_iff, UInt32.le_iff_toNat_le] at h
    exact h
  have value := Text.Utf8.toNat_ofNat (n := c.toNat) (by omega)
  refine ⟨_, Text.Utf8.encodeChar_ascii (by omega), ?_, value⟩
  simp only [isDigit, Bool.and_eq_true, decide_eq_true_iff, UInt8.le_iff_toNat_le,
    UInt8.reduceToNat, value]
  exact range

theorem le_ofDigitChars (cs : List Char) (init : Nat) : init ≤ Nat.ofDigitChars 10 cs init := by
  rw [Nat.ofDigitChars_eq_ofDigitChars_zero]
  exact Nat.le_add_right_of_le (Nat.le_mul_of_pos_left _ (Nat.pow_pos (by decide)))

/-- Digits are gathered up to the end of the number. -/
theorem gather_digits {cs : List Char} (digits : ∀ c ∈ cs, c.isDigit) (sum count before : Nat)
    {rest : List UInt8} (delimited : Delimited rest)
    (fits : Nat.ofDigitChars 10 cs sum ≤ maxU64) : ∃ count' b,
      gather sum count before (encode cs ++ rest) =
        (Nat.ofDigitChars 10 cs sum, count', ⟨b, rest⟩) := by
  induction cs generalizing sum count before with
  | nil =>
    obtain ⟨b, more, rfl, hb⟩ := delimited
    refine ⟨count, before, ?_⟩
    have : isDigit b = false := by rcases hb with rfl | rfl | rfl <;> rfl
    simp [gather, this]
  | cons c cs ih =>
    obtain ⟨b, hb, isDigit_b, value⟩ := encodeChar_digit (digits c List.mem_cons_self)
    rw [Nat.ofDigitChars_cons] at fits ⊢
    have same : sum * 10 + (b.toNat - 48) = 10 * sum + (c.toNat - '0'.toNat) := by
      rw [value, Nat.mul_comm]
      rfl
    have next : sum * 10 + (b.toNat - 48) ≤ maxU64 := same ▸ Nat.le_trans (le_ofDigitChars cs _) fits
    obtain ⟨count', b', h⟩ := ih (fun d hd => digits d (List.mem_cons_of_mem c hd)) _ (count + 1)
      (before + 1) fits
    refine ⟨count', b', ?_⟩
    rw [encode_cons, hb, List.singleton_append, List.cons_append, gather]
    simp only [isDigit_b, next, decide_true, Bool.and_self, if_true]
    rw [same, h]

theorem digitChar_ne_zero : ∀ n < 10, 0 < n → Nat.digitChar n ≠ '0' := by decide

/-- A positive number does not begin with a nought. -/
theorem toDigits_cons {n : Nat} (pos : 0 < n) : ∃ c cs, Nat.toDigits 10 n = c :: cs ∧ c ≠ '0' := by
  induction n using Nat.strongRecOn with
  | _ n ih =>
    rw [Nat.toDigits_eq_if (by decide)]
    split
    · next small => exact ⟨_, [], rfl, digitChar_ne_zero n small pos⟩
    · obtain ⟨c, cs, h, hc⟩ := ih (n / 10) (by omega) (by omega)
      exact ⟨c, cs ++ [Nat.digitChar (n % 10)], by rw [h, List.cons_append], hc⟩

theorem numberTail_delimited (negative : Bool) (sum before : Nat) {rest : List UInt8}
    (delimited : Delimited rest) :
    numberTail negative sum ⟨before, rest⟩ = .ok (wholeNumber negative sum, ⟨before, rest⟩) := by
  obtain ⟨-, no_point, no_exponent⟩ := delimited.peek before
  rw [numberTail]
  simp [no_point, no_exponent]

/-- A printed number without its sign is read as the number. -/
theorem number_print (negative : Bool) {n : Nat} (fits : n ≤ maxU64) (before : Nat)
    {rest : List UInt8} (delimited : Delimited rest) : ∃ b,
      number negative ⟨before, encode (printNat n) ++ rest⟩ =
        .ok (wholeNumber negative n, ⟨b, rest⟩) := by
  rcases Nat.eq_zero_or_pos n with rfl | pos
  · refine ⟨before + 1, ?_⟩
    show number negative ⟨before, 48 :: rest⟩ = _
    rw [number]
    simp [Cursor.skip, (delimited.peek (before + 1)).1, numberTail_delimited _ _ _ delimited]
  · obtain ⟨c, cs, hcs, hc⟩ := toDigits_cons pos
    have digits : ∀ d ∈ c :: cs, d.isDigit := fun d hd =>
      Nat.isDigit_of_mem_toDigits (by decide) (by decide) (hcs ▸ hd)
    obtain ⟨x, hx, isDigit_x, value⟩ := encodeChar_digit (digits c List.mem_cons_self)
    have not_zero : (x == 48) = false := by
      rw [beq_eq_false_iff_ne]
      rintro rfl
      exact hc (Char.toNat_inj.mp value.symm)
    have sum : Nat.ofDigitChars 10 cs (x.toNat - 48) = n := by
      have := Nat.ofDigitChars_ten_toDigits (n := n)
      rw [hcs, Nat.ofDigitChars_cons, Nat.mul_zero, Nat.zero_add, ← value] at this
      exact this
    obtain ⟨count, b, gathered⟩ := gather_digits (fun d hd => digits d (List.mem_cons_of_mem c hd))
      (x.toNat - 48) 1 (before + 1) delimited (sum ▸ fits)
    refine ⟨b, ?_⟩
    rw [printNat, hcs, encode_cons, hx, List.singleton_append, List.cons_append, number]
    simp only [not_zero, isDigit_x, gathered, sum, (delimited.peek b).1, if_true, if_false,
      numberTail_delimited _ _ _ delimited, Bool.false_eq_true]

/-- A number between -2^63 and 2^64 - 1. -/
def Number.InRange : Number → Prop
  | .whole n => -2 ^ 63 ≤ n ∧ n < 2 ^ 64
  | .float .. => False

/-- With its sign, it is the number that was printed. -/
theorem wholeNumber_negSucc {n : Nat} (h : (Number.whole (.negSucc n)).InRange) :
    wholeNumber true (n + 1) = .whole (.negSucc n) := by
  have low : n + 1 ≤ pow2 63 := by
    have : pow2 63 = 2 ^ 63 := rfl
    have := h.1
    omega
  rw [wholeNumber, if_neg (by decide), if_neg (by simp; omega)]
  rfl

end Sluice.Json
