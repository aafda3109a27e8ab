import Sluice.Json.Printer
import Sluice.Json.Reader
import Sluice.Proofs.Text.Utf8
/-!
# Printed strings are read back

A printed string is a run of characters that stand for themselves, then an escape, then such a run
again, up to the closing quote. That is also how a string is read: a run is decoded as a whole, and an
escape by itself.

* `bare`: the characters that stand for themselves.
* `escaped_printChar`: the escape of a character is read as that character.
* `stringTail_print`: the printed characters are read as these.
* `string_print`: a printed string is read as the string.
-/
namespace Sluice.Json

open Text.Utf8 (encode encode_cons encode_append encode_nil decode_encode)

/-- The characters that stand for themselves inside a printed string. -/
def bare (c : Char) : Bool := c != '"' && c != '\\' && 32 ≤ c.toNat

theorem printChar_bare {c : Char} (h : bare c) : printChar c = [c] := by
  unfold printChar
  split
  case h_8 =>
    simp only [bare, Bool.and_eq_true, decide_eq_true_iff] at h
    rw [if_neg (Nat.not_lt_of_le h.2)]
  all_goals exact absurd h (by decide)

theorem flatMap_printChar_bare {cs : List Char} (h : ∀ c ∈ cs, bare c) :
    cs.flatMap printChar = cs := by
  induction cs with
  | nil => rfl
  | cons c cs ih =>
    rw [List.flatMap_cons, printChar_bare (h c List.mem_cons_self),
      ih fun d hd => h d (List.mem_cons_of_mem c hd), List.singleton_append]

theorem isPlain_of_mem_encodeChar {c : Char} (h : bare c) {b : UInt8}
    (hb : b ∈ String.utf8EncodeChar c) : isPlain b = true := by
  simp only [isPlain, Bool.and_eq_true, decide_eq_true_iff, bne_iff_ne, ne_eq,
    UInt8.le_iff_toNat_le, ← UInt8.toNat_inj, UInt8.reduceToNat]
  by_cases ascii : c.toNat < 128
  · rw [Text.Utf8.encodeChar_ascii ascii, List.mem_singleton] at hb
    simp only [bare, Bool.and_eq_true, decide_eq_true_iff, bne_iff_ne, ne_eq, ← Char.toNat_inj,
      Char.reduceToNat] at h
    rw [hb, Text.Utf8.toNat_ofNat (by omega)]
    exact h
  · have := Text.Utf8.ge_of_mem_encodeChar (Nat.le_of_not_lt ascii) hb
    omega

/-- A run of bare characters is taken as far as it goes. -/
theorem span_isPlain {cs : List Char} (h : ∀ c ∈ cs, bare c) {b : UInt8} (hb : isPlain b = false)
    (rest : List UInt8) : (encode cs ++ b :: rest).takeWhile isPlain = encode cs ∧
      (encode cs ++ b :: rest).dropWhile isPlain = b :: rest := by
  have plain : ∀ x ∈ encode cs, isPlain x := fun x hx => by
    obtain ⟨c, hc, hx⟩ := List.mem_flatMap.mp hx
    exact isPlain_of_mem_encodeChar (h c hc) hx
  rw [List.takeWhile_append_of_pos plain, List.dropWhile_append_of_pos plain,
    List.takeWhile_cons_of_neg (by simp [hb]), List.dropWhile_cons_of_neg (by simp [hb]),
    List.append_nil]
  exact ⟨rfl, rfl⟩

/-! ## Escapes -/

/-- The byte of a digit of base sixteen. -/
def hexByte (n : Nat) : UInt8 := UInt8.ofNat (Text.hexDigit n).toNat

theorem encode_hexDigit : ∀ n < 16, String.utf8EncodeChar (Text.hexDigit n) = [hexByte n] ∧
    hexValue? (hexByte n) = some n := by decide

theorem unicodeEscape_hex {n : Nat} (h : n < 32) {x y : UInt8} (hx : hexValue? x = some (n / 16))
    (hy : hexValue? y = some (n % 16)) (before : Nat) (rest : List UInt8) :
    unicodeEscape ⟨before, 48 :: 48 :: x :: y :: rest⟩ = .ok (Char.ofNat n, ⟨before + 4, rest⟩) := by
  have zero : hexValue? 48 = some 0 := rfl
  have read : fourHex ⟨before, 48 :: 48 :: x :: y :: rest⟩ = .ok (n, ⟨before + 4, rest⟩) := by
    simp only [fourHex, zero, hx, hy, Cursor.skip]
    rw [show 0 * 4096 + 0 * 256 + n / 16 * 16 + n % 16 = n by omega]
    rfl
  have low : (0xDC00 ≤ n && n ≤ 0xDFFF) = false := by simp; omega
  have scalar : (n < 0xD800 || 0xDBFF < n) = true := by simp; omega
  rw [unicodeEscape, read]
  show (if (_ : Bool) then _ else _) = _
  simp only [low, scalar]
  rfl

/-- The escape of a character is read as that character. -/
theorem escaped_printChar {c : Char} (h : bare c = false) : ∃ tail,
    encode (printChar c) = 92 :: tail ∧
      ∀ before rest, ∃ b, escaped ⟨before, tail ++ rest⟩ = .ok (c, ⟨b, rest⟩) := by
  unfold printChar
  split
  case h_8 =>
    have low : c.toNat < 32 := by
      simp only [bare, Bool.and_eq_false_iff, bne_eq_false_iff_eq, decide_eq_false_iff_not] at h
      rcases h with (h | h) | h
      · exact absurd h (by assumption)
      · exact absurd h (by assumption)
      · omega
    obtain ⟨hx, vx⟩ := encode_hexDigit (c.toNat / 16) (by omega)
    obtain ⟨hy, vy⟩ := encode_hexDigit (c.toNat % 16) (by omega)
    refine ⟨[117, 48, 48, hexByte (c.toNat / 16), hexByte (c.toNat % 16)], ?_, fun before rest => ⟨before + 1 + 4, ?_⟩⟩
    · rw [if_pos low]
      simp only [encode_cons, hx, hy]
      rfl
    · have := unicodeEscape_hex low vx vy (before + 1) rest
      rw [Char.ofNat_toNat] at this
      exact this
  all_goals exact ⟨_, rfl, fun before rest => ⟨_, rfl⟩⟩

/-! ## Strings -/

/-- A text begins with a run of bare characters, behind which there is nothing or an escape. -/
theorem exists_run (cs : List Char) : ∃ run rest, cs = run ++ rest ∧ (∀ c ∈ run, bare c) ∧
    (rest = [] ∨ ∃ c rest', rest = c :: rest' ∧ bare c = false) := by
  induction cs with
  | nil => exact ⟨[], [], rfl, by simp, .inl rfl⟩
  | cons c cs ih =>
    cases hc : bare c with
    | false => exact ⟨[], c :: cs, rfl, by simp, .inr ⟨c, cs, rfl, hc⟩⟩
    | true =>
      obtain ⟨run, rest, rfl, hrun, hrest⟩ := ih
      exact ⟨c :: run, rest, rfl, List.forall_mem_cons.mpr ⟨hc, hrun⟩, hrest⟩

/-- The printed characters of a string are read as these, whatever has been read before. -/
theorem stringTail_print (cs : List Char) : ∀ (fuel : Nat) (done : List Char) (before : Nat)
    (rest : List UInt8), cs.length < fuel → ∃ b,
      stringTail fuel done none ⟨before, encode (cs.flatMap printChar) ++ 34 :: rest⟩ =
        .ok (String.ofList (done.reverse ++ cs), ⟨b, rest⟩) := by
  -- by the length of the text, because each turn takes a whole run and the escape behind it
  induction h : cs.length using Nat.strongRecOn generalizing cs with
  | _ n ih =>
    intro fuel done before rest hfuel
    obtain ⟨fuel, rfl⟩ : ∃ f, fuel = f + 1 := ⟨fuel - 1, by omega⟩
    obtain ⟨run, more, rfl, hrun, rfl | ⟨c, more, rfl, hc⟩⟩ := exists_run cs
    · obtain ⟨htake, hdrop⟩ := span_isPlain hrun (b := 34) rfl rest
      rw [List.append_nil, flatMap_printChar_bare hrun, stringTail]
      simp only [htake, hdrop, decode_encode]
      exact ⟨before + (encode run).length + 1, by simp [Cursor.skip]⟩
    · obtain ⟨tail, htail, hread⟩ := escaped_printChar hc
      rw [List.length_append, List.length_cons] at h
      rw [List.flatMap_append, flatMap_printChar_bare hrun, List.flatMap_cons, encode_append,
        encode_append, htail, List.append_assoc, List.append_assoc, List.cons_append]
      obtain ⟨htake, hdrop⟩ :=
        span_isPlain hrun (b := 92) rfl (tail ++ (encode (more.flatMap printChar) ++ 34 :: rest))
      obtain ⟨b, hb⟩ := hread (before + (encode run).length + 1)
        (encode (more.flatMap printChar) ++ 34 :: rest)
      obtain ⟨b', hb'⟩ := ih more.length (by omega) more rfl fuel (c :: (run.reverse ++ done)) b rest
        (by omega)
      refine ⟨b', ?_⟩
      rw [stringTail]
      simp only [htake, hdrop, decode_encode, Cursor.skip]
      simp [hb, hb']

theorem length_le_encode (cs : List Char) :
    cs.length ≤ (encode (cs.flatMap printChar)).length := by
  induction cs with
  | nil => exact Nat.le_refl _
  | cons c cs ih =>
    have pos : 0 < (encode (printChar c)).length := by
      cases hc : bare c with
      | true =>
        rw [printChar_bare hc, encode_cons, encode_nil, List.append_nil]
        exact List.length_pos_iff.mpr String.utf8EncodeChar_ne_nil
      | false =>
        obtain ⟨tail, htail, -⟩ := escaped_printChar hc
        simp [htail]
    rw [List.flatMap_cons, encode_append, List.length_append, List.length_cons]
    omega

/-- The bytes of a printed string behind its opening quote. -/
def stringBytes (s : String) : List UInt8 := encode (s.toList.flatMap printChar) ++ [34]

theorem encode_printString (s : String) : encode (printString s) = 34 :: stringBytes s := by
  rw [printString, List.cons_append, encode_cons, encode_append]
  rfl

/-- A printed string is read as the string. -/
theorem string_print (s : String) (before : Nat) (rest : List UInt8) :
    ∃ b, string ⟨before, stringBytes s ++ rest⟩ = .ok (s, ⟨b, rest⟩) := by
  have enough := length_le_encode s.toList
  rw [stringBytes, List.append_assoc, List.singleton_append, string]
  obtain ⟨b, hb⟩ := stringTail_print s.toList
    ((encode (s.toList.flatMap printChar) ++ 34 :: rest).length + 1) [] before rest
    (by rw [List.length_append]; omega)
  exact ⟨b, by rw [hb, List.reverse_nil, List.nil_append, String.ofList_toList]⟩

end Sluice.Json
