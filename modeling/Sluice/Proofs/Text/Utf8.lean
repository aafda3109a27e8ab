import Sluice.Text.Utf8
/-!
# Text survives its encoding

* `decodeFrom_encodeChar`: the bytes of a character are read as that character.
* `decode_encode`: the bytes of a text are read as that text.
* `encodeChar_ascii`: a character below 128 is one byte of its own.
* `ge_of_mem_encodeChar`: any other character consists of bytes from 128 on.
-/
namespace Sluice.Text.Utf8

@[simp] theorem encode_nil : encode [] = [] := rfl

theorem encode_cons (c : Char) (cs : List Char) :
    encode (c :: cs) = String.utf8EncodeChar c ++ encode cs := List.flatMap_cons

@[simp] theorem encode_append (cs ds : List Char) : encode (cs ++ ds) = encode cs ++ encode ds :=
  List.flatMap_append

theorem toNat_ofNat {n : Nat} (h : n < 256) : (UInt8.ofNat n).toNat = n := by
  rw [UInt8.toNat_ofNat']
  omega

theorem isTail_ofNat {n : Nat} (h : n < 64) : isTail (UInt8.ofNat (n + 128)) = true := by
  simp only [isTail, Bool.and_eq_true, decide_eq_true_iff, UInt8.le_iff_toNat_le,
    UInt8.reduceToNat, toNat_ofNat (show n + 128 < 256 by omega)]
  omega

theorem tail_ofNat {n : Nat} (h : n < 64) : tail (UInt8.ofNat (n + 128)) = n := by
  rw [tail, toNat_ofNat (by omega)]
  omega

section
variable (i : Nat) (acc : List Char) {a b c d : Nat} (rest : List UInt8)

theorem decodeFrom_one (ha : a < 0x80) : decodeFrom i acc (UInt8.ofNat a :: rest) =
    decodeFrom (i + 1) (Char.ofNat a :: acc) rest := by
  have hlt : UInt8.ofNat a < 0x80 := by
    rw [UInt8.lt_iff_toNat_lt, toNat_ofNat (by omega)]
    exact ha
  rw [decodeFrom.eq_def]
  simp only [if_pos hlt, toNat_ofNat (show a < 256 by omega)]

theorem decodeFrom_two (ha : 0xC2 ≤ a) (ha' : a ≤ 0xDF) (hb : b < 64) :
    decodeFrom i acc (UInt8.ofNat a :: UInt8.ofNat (b + 128) :: rest) =
      decodeFrom (i + 2) (Char.ofNat (a % 32 * 64 + b) :: acc) rest := by
  rw [decodeFrom.eq_def]
  simp only [UInt8.lt_iff_toNat_lt, UInt8.le_iff_toNat_le, UInt8.reduceToNat,
    toNat_ofNat (show a < 256 by omega), isTail_ofNat hb, tail_ofNat hb, Bool.and_eq_true,
    decide_eq_true_iff, if_true]
  rw [if_neg (by omega), if_pos ⟨ha, ha'⟩]

theorem decodeFrom_three (ha : 0xE0 ≤ a) (ha' : a ≤ 0xEF) (hb : b < 64) (hc : c < 64)
    (low : a = 0xE0 → 32 ≤ b) (high : a = 0xED → b < 32) :
    decodeFrom i acc (UInt8.ofNat a :: UInt8.ofNat (b + 128) :: UInt8.ofNat (c + 128) :: rest) =
      decodeFrom (i + 3) (Char.ofNat (a % 16 * 4096 + b * 64 + c) :: acc) rest := by
  rw [decodeFrom.eq_def]
  simp only [UInt8.lt_iff_toNat_lt, UInt8.le_iff_toNat_le, UInt8.reduceToNat, ← UInt8.toNat_inj,
    toNat_ofNat (show a < 256 by omega), toNat_ofNat (show b + 128 < 256 by omega),
    isTail_ofNat hb, isTail_ofNat hc, tail_ofNat hb, tail_ofNat hc, Bool.and_eq_true,
    Bool.or_eq_true, bne_iff_ne, ne_eq, decide_eq_true_iff, true_and]
  rw [if_neg (by omega), if_neg (by omega), if_pos ⟨ha, ha'⟩, if_pos (by omega)]

theorem decodeFrom_four (ha : 0xF0 ≤ a) (ha' : a ≤ 0xF4) (hb : b < 64) (hc : c < 64) (hd : d < 64)
    (low : a = 0xF0 → 16 ≤ b) (high : a = 0xF4 → b < 16) :
    decodeFrom i acc (UInt8.ofNat a :: UInt8.ofNat (b + 128) :: UInt8.ofNat (c + 128) ::
        UInt8.ofNat (d + 128) :: rest) =
      decodeFrom (i + 4) (Char.ofNat (a % 8 * 262144 + b * 4096 + c * 64 + d) :: acc) rest := by
  rw [decodeFrom.eq_def]
  simp only [UInt8.lt_iff_toNat_lt, UInt8.le_iff_toNat_le, UInt8.reduceToNat, ← UInt8.toNat_inj,
    toNat_ofNat (show a < 256 by omega), toNat_ofNat (show b + 128 < 256 by omega),
    isTail_ofNat hb, isTail_ofNat hc, isTail_ofNat hd, tail_ofNat hb, tail_ofNat hc, tail_ofNat hd,
    Bool.and_eq_true, Bool.or_eq_true, bne_iff_ne, ne_eq, decide_eq_true_iff, and_true]
  rw [if_neg (by omega), if_neg (by omega), if_neg (by omega), if_pos (by omega)]

end

/-- The bytes of a character are read as that character. -/
theorem decodeFrom_encodeChar (i : Nat) (acc : List Char) (c : Char) (rest : List UInt8) :
    ∃ j, decodeFrom i acc (String.utf8EncodeChar c ++ rest) = decodeFrom j (c :: acc) rest := by
  obtain ⟨n, hn⟩ : ∃ n, n = c.val.toNat := ⟨_, rfl⟩
  have valid : n < 0xD800 ∨ 0xDFFF < n ∧ n < 0x110000 := hn ▸ c.valid
  have back {m : Nat} (hm : m = n) : Char.ofNat m = c := by
    rw [hm, hn]
    exact Char.ofNat_toNat c
  rw [String.utf8EncodeChar.eq_1, ← hn]
  split
  · exact ⟨i + 1, by rw [List.singleton_append, decodeFrom_one _ _ _ (by omega), back rfl]⟩
  split
  · refine ⟨i + 2, ?_⟩
    simp only [List.cons_append, List.nil_append]
    rw [decodeFrom_two _ _ _ (by omega) (by omega) (by omega), back (by omega)]
  split
  · refine ⟨i + 3, ?_⟩
    simp only [List.cons_append, List.nil_append]
    rw [decodeFrom_three _ _ _ (by omega) (by omega) (by omega) (by omega) (by omega) (by omega),
      back (by omega)]
  · refine ⟨i + 4, ?_⟩
    simp only [List.cons_append, List.nil_append]
    rw [decodeFrom_four _ _ _ (by omega) (by omega) (by omega) (by omega) (by omega) (by omega)
      (by omega), back (by omega)]

theorem decodeFrom_encode (i : Nat) (acc cs : List Char) :
    decodeFrom i acc (encode cs) = .ok (acc.reverse ++ cs) := by
  induction cs generalizing i acc with
  | nil => rw [encode_nil, decodeFrom.eq_def, List.append_nil]
  | cons c cs ih =>
    obtain ⟨j, hj⟩ := decodeFrom_encodeChar i acc c (encode cs)
    rw [encode_cons, hj, ih, List.reverse_cons, List.append_assoc, List.singleton_append]

/-- The bytes of a text are read as that text. -/
@[simp] theorem decode_encode (cs : List Char) : decode (encode cs) = .ok cs :=
  decodeFrom_encode 0 [] cs

/-- A character below 128 is one byte of its own. -/
theorem encodeChar_ascii {c : Char} (h : c.toNat < 128) :
    String.utf8EncodeChar c = [UInt8.ofNat c.toNat] := by
  rw [String.utf8EncodeChar.eq_1, if_pos (show c.val.toNat ≤ 127 from Nat.le_of_lt_succ h)]
  rfl

/-- Any other character consists of bytes from 128 on. -/
theorem ge_of_mem_encodeChar {c : Char} (h : 128 ≤ c.toNat) {b : UInt8}
    (hb : b ∈ String.utf8EncodeChar c) : 128 ≤ b.toNat := by
  rw [String.utf8EncodeChar.eq_1, if_neg (show ¬c.val.toNat ≤ 127 from Nat.not_le_of_lt h)] at hb
  split at hb
  · simp only [List.mem_cons, List.not_mem_nil, or_false] at hb
    rcases hb with rfl | rfl <;> rw [UInt8.toNat_ofNat'] <;> omega
  split at hb
  · simp only [List.mem_cons, List.not_mem_nil, or_false] at hb
    rcases hb with rfl | rfl | rfl <;> rw [UInt8.toNat_ofNat'] <;> omega
  · simp only [List.mem_cons, List.not_mem_nil, or_false] at hb
    rcases hb with rfl | rfl | rfl | rfl <;> rw [UInt8.toNat_ofNat'] <;> omega

end Sluice.Text.Utf8
