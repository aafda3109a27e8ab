import Sluice.Unicode.Folding
import Sluice.Unicode.Runs
/-!
# Sets of characters

A set is a list of closed ranges of code points, in ascending order and apart from one another.
`ofRanges` brings any list of ranges into that form; the other operations keep it.
-/
namespace Sluice.Pattern

/-- A set of characters, by their code points. -/
abbrev CharSet := List Unicode.Range

namespace CharSet

/-- Joins ranges in ascending order that overlap or touch. -/
def join : List Unicode.Range → CharSet
  | [] => []
  | r :: rest =>
    match join rest with
    | [] => [r]
    | s :: ss => if s.1 ≤ r.2 + 1 then (r.1, max r.2 s.2) :: ss else r :: s :: ss

/-- The set of any list of ranges. A range whose end lies before its start is dropped. -/
def ofRanges (rs : List Unicode.Range) : CharSet :=
  join ((rs.filter fun r => r.1 ≤ r.2).mergeSort fun a b => a.1 ≤ b.1)

/-- The set of one character. -/
def single (c : Char) : CharSet := [(c.toNat, c.toNat)]

/-- Whether a character belongs to a set. -/
def holds (s : CharSet) (c : Char) : Bool := Unicode.within s c.toNat

/-- What belongs to either set. -/
def union (s t : CharSet) : CharSet := ofRanges (s ++ t)

/-- The gaps of a set from `pos` on. -/
def gaps (pos : Nat) : CharSet → CharSet
  | [] => if pos ≤ Unicode.last then [(pos, Unicode.last)] else []
  | r :: rest => if pos < r.1 then (pos, r.1 - 1) :: gaps (r.2 + 1) rest else gaps (r.2 + 1) rest

/-- What does not belong to a set. -/
def complement (s : CharSet) : CharSet := gaps 0 s

/-- What belongs to both sets. -/
def inter (s t : CharSet) : CharSet := complement (union (complement s) (complement t))

/-- What belongs to the first set only. -/
def diff (s t : CharSet) : CharSet := inter s (complement t)

/-- What belongs to exactly one of two sets. -/
def symmDiff (s t : CharSet) : CharSet := union (diff s t) (diff t s)

/-- The members of a set's ASCII part in the other case. -/
def foldAscii (s : CharSet) : CharSet :=
  union s (((List.range 26).flatMap fun i =>
    let up := 65 + i
    let lo := 97 + i
    if Unicode.within s up || Unicode.within s lo then [(up, up), (lo, lo)] else []))

/-- The pairs of a run one of which belongs to a set. -/
def foldRun (s : CharSet) (p : Unicode.PairRun) : List Unicode.Range :=
  (List.range p.count).flatMap fun i =>
    let a := p.first + i * p.step
    let b := a + p.distance
    if Unicode.within s a || Unicode.within s b then [(a, a), (b, b)] else []

/-- The group, if one of it belongs to a set. -/
def foldGroup (s : CharSet) (g : List Nat) : List Unicode.Range :=
  if g.any (Unicode.within s) then g.map fun c => (c, c) else []

/-- A set with every character that differs from a member in case only. -/
def fold (s : CharSet) : CharSet :=
  ofRanges (s ++ Unicode.foldPairs.flatMap (foldRun s) ++ Unicode.foldGroups.flatMap (foldGroup s))

/-- Whether a set holds ASCII characters only. -/
def isAscii (s : CharSet) : Bool := s.all fun r => r.2 < 128

end CharSet
end Sluice.Pattern
