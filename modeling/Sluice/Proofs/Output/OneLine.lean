import Sluice.Output
/-!
# A record stands on one line

Whatever a record holds, its printed form has no line break in it: a printed string escapes it, and
nothing else that is printed has one. So the lines of an output are the lines of its records.

* `Json.Value.oneLine`: a printed value has no line break.
* `Record.oneLine`, `Output.newline_not_mem_lineBytes`: nor has the line of a record, as text or as
  bytes.
-/
namespace Sluice

/-- A text without line breaks. -/
def OneLine (cs : List Char) : Prop := '\n' ∉ cs

@[simp] theorem oneLine_nil : OneLine [] := List.not_mem_nil

@[simp] theorem oneLine_cons {c : Char} {cs : List Char} :
    OneLine (c :: cs) ↔ c ≠ '\n' ∧ OneLine cs := by
  unfold OneLine
  rw [List.mem_cons, not_or, ne_comm]

@[simp] theorem oneLine_append {cs ds : List Char} :
    OneLine (cs ++ ds) ↔ OneLine cs ∧ OneLine ds := by
  unfold OneLine
  rw [List.mem_append, not_or]

theorem OneLine.take {cs : List Char} (h : OneLine cs) (n : Nat) : OneLine (cs.take n) :=
  fun hm => h (List.mem_of_mem_take hm)

theorem OneLine.drop {cs : List Char} (h : OneLine cs) (n : Nat) : OneLine (cs.drop n) :=
  fun hm => h (List.mem_of_mem_drop hm)

theorem oneLine_replicate {c : Char} (hc : c ≠ '\n') (n : Nat) : OneLine (List.replicate n c) :=
  fun hm => hc (List.eq_of_mem_replicate hm).symm

@[simp] theorem oneLine_digits (n : Nat) : OneLine (Nat.toDigits 10 n) := fun hm =>
  absurd (Nat.isDigit_of_mem_toDigits (by decide) (by decide) hm) (by decide)

namespace Json

theorem hexDigit_ne_newline : ∀ {n : Nat}, n < 16 → Text.hexDigit n ≠ '\n' := by decide

theorem oneLine_printChar (c : Char) : OneLine (printChar c) := by
  unfold printChar
  split
  case h_8 h _ _ =>
    split
    · have h1 := hexDigit_ne_newline (n := c.toNat / 16) (by omega)
      have h2 := hexDigit_ne_newline (n := c.toNat % 16) (by omega)
      simp [h1, h2]
    · simpa using h
  all_goals simp

@[simp] theorem oneLine_printString (s : String) : OneLine (printString s) := by
  unfold printString
  simp only [List.cons_append, oneLine_cons, oneLine_append, oneLine_nil]
  refine ⟨by decide, fun hm => ?_, by decide, trivial⟩
  obtain ⟨c, -, hc⟩ := List.mem_flatMap.mp hm
  exact oneLine_printChar c hc

theorem oneLine_printInt (n : Int) : OneLine (printInt n) := by
  cases n <;> simp [printInt, printNat]

theorem oneLine_printDecimal (a : Nat) (k : Int) : OneLine (printDecimal a k) := by
  have hd : OneLine (printNat a) := oneLine_digits a
  have hz (n : Nat) : OneLine (List.replicate n '0') := oneLine_replicate (by decide) n
  unfold printDecimal
  simp only
  split
  · split
    · simp [hd, hz]
    · split
      · simp [hd.take, hd.drop]
      · simp [hd, hz]
  · have hrest :
        OneLine (if ((printNat a).drop 1).isEmpty then [] else '.' :: (printNat a).drop 1) := by
      split
      · exact oneLine_nil
      · exact oneLine_cons.mpr ⟨by decide, hd.drop 1⟩
    have hexp (e : Int) :
        OneLine (if 0 ≤ e then '+' :: printNat e.toNat else '-' :: printNat (-e).toNat) := by
      split <;> simp [printNat]
    simp only [oneLine_append]
    exact ⟨⟨⟨hd.take 1, hrest⟩, by simp⟩, hexp _⟩

theorem oneLine_printFloat (x : Binary64) : OneLine (printFloat x) := by
  unfold printFloat
  split
  · simp
  · exact oneLine_printDecimal _ _

theorem Number.oneLine (n : Number) : OneLine n.print := by
  cases n with
  | whole n => exact oneLine_printInt n
  | float negative x =>
    unfold Number.print
    cases negative <;> simp [oneLine_printFloat]

mutual

theorem Value.oneLine : ∀ v : Value, OneLine v.print
  | .null => by simp [Value.print]
  | .bool true => by simp [Value.print]
  | .bool false => by simp [Value.print]
  | .number n => by simp [Value.print, n.oneLine]
  | .string s => by simp [Value.print]
  | .array items => by simp [Value.print, oneLine_printItems items]
  | .object entries => by simp [Value.print, oneLine_printEntries entries]

theorem oneLine_printItems : ∀ vs : List Value, OneLine (printItems vs)
  | [] => by simp [printItems]
  | [v] => by simp [printItems, v.oneLine]
  | v :: w :: vs => by simp [printItems, v.oneLine, oneLine_printItems (w :: vs)]

theorem oneLine_printEntries : ∀ es : List (String × Value), OneLine (printEntries es)
  | [] => by simp [printEntries]
  | [(k, v)] => by simp [printEntries, v.oneLine]
  | (k, v) :: e :: es => by simp [printEntries, v.oneLine, oneLine_printEntries (e :: es)]

end

end Json

namespace Instant

@[simp] theorem oneLine_padded (width n : Nat) : OneLine (padded width n) := by
  simp [padded, oneLine_replicate]

@[simp] theorem oneLine_printYear (y : Int) : OneLine (printYear y) := by
  unfold printYear
  split
  · simp
  · split <;> simp

@[simp] theorem oneLine_printFraction (nanos : Nat) : OneLine (printFraction nanos) := by
  unfold printFraction
  repeat' split
  all_goals simp

theorem oneLine (i : Instant) : OneLine i.print := by simp [print]

end Instant

namespace Record

theorem oneLine (r : Record) : OneLine r.line := by
  unfold line lineKey
  cases r.timestamp <;> simp [Json.Value.oneLine, Instant.oneLine]

end Record

namespace Output

theorem newline_eq_ofNat {n : Nat} : newline = UInt8.ofNat n ↔ n % 256 = 10 := by
  rw [← UInt8.toNat_inj, UInt8.toNat_ofNat', eq_comm]
  rfl

/-- Only a line break is written with the byte of one. -/
theorem eq_of_newline_mem {c : Char} (h : newline ∈ String.utf8EncodeChar c) : c = '\n' := by
  have hv : c.val.toNat = 10 := by
    unfold String.utf8EncodeChar at h
    simp only at h
    -- every other character is written in bytes from 128 on
    repeat' split at h
    all_goals
      simp only [List.mem_cons, List.not_mem_nil, or_false, newline_eq_ofNat] at h
      omega
  exact Char.ext (UInt32.toNat_inj.mp hv)

theorem newline_not_mem_encode {cs : List Char} (h : OneLine cs) :
    newline ∉ Text.Utf8.encode cs := by
  intro hm
  obtain ⟨c, hc, hb⟩ := List.mem_flatMap.mp hm
  exact h (eq_of_newline_mem hb ▸ hc)

theorem newline_not_mem_lineBytes (r : Record) : newline ∉ lineBytes r :=
  newline_not_mem_encode r.oneLine

end Output
end Sluice
