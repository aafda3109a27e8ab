import Sluice.Binary64
import Sluice.Text.Blank
/-!
# Durations

A duration is written as numbers with units, one after the other: `1h30m`, `1.5s`, `250ms`. White
space around the whole is dropped, and a bare `0` needs no unit. The sum is kept in binary floating
point and rounded to whole nanoseconds at the end, so a duration holds at most 2^64 - 1 of them.
-/
namespace Sluice

/-- A length of time in nanoseconds. -/
structure Duration where
  nanos : Nat
  deriving DecidableEq, Repr

namespace Duration

/-- The greatest duration that a text can give. -/
def max : Duration := ⟨pow2 64 - 1⟩

/-- Nothing at all. -/
def zero : Duration := ⟨0⟩

/-- Whole milliseconds. -/
def ofMillis (n : Nat) : Duration := ⟨n * 1000000⟩

/-- Whole seconds. -/
def ofSeconds (n : Nat) : Duration := ⟨n * 1000000000⟩

/-- The units of time. -/
inductive TimeUnit where
  | nano
  | micro
  | milli
  | second
  | minute
  | hour
  deriving DecidableEq, Repr

/-- How many nanoseconds one unit holds. -/
def TimeUnit.nanos : TimeUnit → Nat
  | .nano => 1
  | .micro => 1000
  | .milli => 1000000
  | .second => 1000000000
  | .minute => 60000000000
  | .hour => 3600000000000

/-- The unit of this name. Microseconds may be written with a `u` or with the micro sign. -/
def TimeUnit.ofName? : List Char → Option TimeUnit
  | ['n', 's'] => some .nano
  | ['u', 's'] => some .micro
  | ['\u00b5', 's'] => some .micro
  | ['m', 's'] => some .milli
  | ['s'] => some .second
  | ['m'] => some .minute
  | ['h'] => some .hour
  | _ => none

/-- Why a text is no duration. Each cause but the first carries the trimmed text. -/
inductive Fault where
  | empty
  | noNumber (text : String)
  | badNumber (text : String)
  | noUnit (text : String)
  | unknownUnit (name text : String)
  | outOfRange (text : String)
  deriving DecidableEq, Repr

/-- The text shown for a fault. -/
def Fault.message : Fault → String
  | .empty => "duration cannot be empty"
  | .noNumber t => "invalid duration '" ++ t ++ "': expected a number"
  | .badNumber t => "invalid number in duration '" ++ t ++ "'"
  | .noUnit t => "missing unit in duration '" ++ t ++ "'"
  | .unknownUnit u t => "unknown unit '" ++ u ++ "' in duration '" ++ t ++ "'"
  | .outOfRange t => "duration '" ++ t ++ "' is out of range"

/-- The characters of a number. -/
def isNumeral (c : Char) : Bool := c.isDigit || c == '.'

/-- The value of a run of digits, any other character being skipped. -/
def digitsValue (s : List Char) : Nat :=
  s.foldl (fun n c => if c.isDigit then n * 10 + (c.toNat - 48) else n) 0

/-- How many digits a run holds. -/
def digitsIn (s : List Char) : Nat := s.countP Char.isDigit

/-- A numeral is digits with at most one point among them, and at least one digit. Its value is a
decimal: the digits, and how many of them stand behind the point. -/
def numeral? (s : List Char) : Option (Nat × Nat) :=
  if s.count '.' ≤ 1 && 0 < digitsIn s then
    some (digitsValue s, digitsIn (s.dropWhile (· != '.')))
  else none

/-- The sum so far plus `value` units, in binary floating point; `none` stands for infinity. -/
def accumulate (total : Option Binary64) (value : Nat × Nat) (unit : TimeUnit) : Option Binary64 := do
  let v ← Binary64.ofDecimal value.1 (-(Int.ofNat value.2))
  let s ← Binary64.ofNat unit.nanos
  let p ← v.mul s
  let t ← total
  t.add p

theorem length_dropWhile_le {α : Type} (p : α → Bool) (s : List α) :
    (s.dropWhile p).length ≤ s.length := by
  induction s with
  | nil => simp
  | cons a s ih =>
    rw [List.dropWhile_cons]
    split
    · exact Nat.le_succ_of_le ih
    · exact Nat.le_refl _

/-- Adds up the segments of a text. `text` is the whole trimmed text, for the messages. -/
def sum (text : String) (total : Option Binary64) (s : List Char) : Except Fault (Option Binary64) :=
  match s with
  | [] => .ok total
  | c :: cs =>
    if !isNumeral c then .error (.noNumber text)
    else
      match numeral? (c :: cs.takeWhile isNumeral) with
      | none => .error (.badNumber text)
      | some value =>
        let rest := cs.dropWhile isNumeral
        let name := rest.takeWhile fun c => !isNumeral c
        if name.isEmpty then .error (.noUnit text)
        else
          match TimeUnit.ofName? name with
          | none => .error (.unknownUnit (String.ofList name) text)
          | some unit => sum text (accumulate total value unit) (rest.dropWhile fun c => !isNumeral c)
termination_by s.length
decreasing_by
  have h1 := length_dropWhile_le (fun c => !isNumeral c) (cs.dropWhile isNumeral)
  have h2 := length_dropWhile_le isNumeral cs
  simp only [List.length_cons]
  omega

/-- The sum in whole nanoseconds. -/
def ofSum (text : String) : Option Binary64 → Except Fault Duration
  | none => .error (.outOfRange text)
  | some t =>
    if t.exceeds (pow2 64) then .error (.outOfRange text)
    else .ok ⟨min t.toNearest max.nanos⟩

/-- Reads a duration (`parse_duration`). -/
def parse (input : String) : Except Fault Duration :=
  let text := Text.trim input
  match text.toList with
  | [] => .error .empty
  | ['0'] => .ok zero
  | s => (sum text (some Binary64.zero) s).bind (ofSum text)

end Duration
end Sluice
