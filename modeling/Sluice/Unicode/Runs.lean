import Sluice.Unicode.Age
import Sluice.Unicode.Break
import Sluice.Unicode.Category
import Sluice.Unicode.Property
import Sluice.Unicode.Script
import Sluice.Unicode.ScriptExtension
/-!
# Sets of code points as run lengths

The tables of this folder write a set of code points as run lengths: how many code points stand
outside the set, then how many inside, and so on from U+0000. `ranges` turns such a text into
closed ranges, and `find?` looks a table up by a loose name.
-/
namespace Sluice.Unicode

/-- A closed range of code points. -/
abbrev Range := Nat × Nat

/-- The last code point. -/
def last : Nat := 0x10FFFF

/-- The decimal numbers of a text, in order; anything else separates them. -/
def numbers (s : String) : List Nat :=
  let step : (Option Nat × List Nat) → Char → (Option Nat × List Nat)
    | (cur, acc), c =>
      if c.isDigit then (some (cur.getD 0 * 10 + (c.toNat - 48)), acc)
      else match cur with
        | some n => (none, n :: acc)
        | none => (none, acc)
  match s.toList.foldl step (none, []) with
  | (some n, acc) => (n :: acc).reverse
  | (none, acc) => acc.reverse

/-- The ranges of a list of run lengths that starts at `pos`. A run left open reaches the end. -/
def rangesFrom : Nat → List Nat → List Range
  | pos, out :: inn :: rest => (pos + out, pos + out + inn - 1) :: rangesFrom (pos + out + inn) rest
  | pos, [out] => [(pos + out, last)]
  | _, [] => []

/-- The ranges of a table entry. -/
def ranges (runs : String) : List Range :=
  rangesFrom 0 (numbers runs)

/-- The entry of a table with this loose name. -/
def find? (table : List (List String × String)) (name : String) : Option (List Range) :=
  (table.find? fun e => e.1.contains name).map fun e => ranges e.2

/-- Whether a code point lies in one of the ranges. -/
def within (rs : List Range) (c : Nat) : Bool :=
  rs.any fun r => r.1 ≤ c && c ≤ r.2

end Sluice.Unicode
