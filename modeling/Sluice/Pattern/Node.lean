import Sluice.Pattern.CharSet
import Sluice.Power
/-!
# What a pattern matches

The meaning of a pattern, on a text with `n` characters, is a function from sets of places to sets
of places: from the places where a match may begin to those where it may end. A set of places is a
number whose bit `i` stands for the place before character `i`. A character class moves every place
whose character belongs to it by one, so that one shift handles all places at once.
-/
namespace Sluice.Pattern

/-- A condition on a place. -/
inductive Look where
  | start
  | stop
  | lineStart
  | lineStop
  | crlfStart
  | crlfStop
  | wordEdge (ascii : Bool)
  | noWordEdge (ascii : Bool)
  | wordStart (ascii : Bool)
  | wordStop (ascii : Bool)
  | wordStartHalf (ascii : Bool)
  | wordStopHalf (ascii : Bool)
  deriving DecidableEq, Repr

/-- A pattern. -/
inductive Node where
  | empty
  | chars (set : CharSet)
  | look (l : Look)
  | seq (a b : Node)
  | alt (a b : Node)
  | rep (min : Nat) (max : Option Nat) (a : Node)
  deriving Repr, Inhabited

/-- A pattern whose classes and conditions have been worked out for a text: each is the set of
places that it lets pass. -/
inductive Plan where
  | empty
  | chars (places : Nat)
  | look (places : Nat)
  | seq (a b : Plan)
  | alt (a b : Plan)
  | rep (min : Nat) (max : Option Nat) (a : Plan)

/-- The places of a text at which `p` holds of the characters on either side. -/
def placesWhere (p : Option Char → Option Char → Bool) (text : List Char) : Nat :=
  let rec go (before : Option Char) (i acc : Nat) : List Char → Nat
    | [] => if p before none then acc + pow2 i else acc
    | c :: rest =>
      go (some c) (i + 1) (if p before (some c) then acc + pow2 i else acc) rest
  go none 0 0 text

/-- Whether a condition holds between two characters; `word` says what words are made of. -/
def Look.holds (word : Bool → Char → Bool) (l : Look) (before after : Option Char) : Bool :=
  let w (ascii : Bool) (c : Option Char) : Bool := c.any (word ascii)
  match l with
  | .start => before.isNone
  | .stop => after.isNone
  | .lineStart => before.isNone || before == some '\n'
  | .lineStop => after.isNone || after == some '\n'
  | .crlfStart => before.isNone || before == some '\n' || (before == some '\r' && after != some '\n')
  | .crlfStop => after.isNone || after == some '\r' || (after == some '\n' && before != some '\r')
  | .wordEdge a => w a before != w a after
  | .noWordEdge a => w a before == w a after
  | .wordStart a => !w a before && w a after
  | .wordStop a => w a before && !w a after
  | .wordStartHalf a => !w a before
  | .wordStopHalf a => !w a after

/-- Works a pattern out for a text. -/
def Node.plan (word : Bool → Char → Bool) (text : List Char) : Node → Plan
  | .empty => .empty
  | .chars s => .chars (placesWhere (fun _ c => c.any s.holds) text)
  | .look l => .look (placesWhere (l.holds word) text)
  | .seq a b => .seq (a.plan word text) (b.plan word text)
  | .alt a b => .alt (a.plan word text) (b.plan word text)
  | .rep lo hi a => .rep lo hi (a.plan word text)

/-- `f` applied `n` times; no place leads to no place. -/
def times (f : Nat → Nat) : Nat → Nat → Nat
  | 0, s => s
  | n + 1, s => if s == 0 then 0 else times f n (f s)

/-- Every place that up to `n` applications of `f` reach from `new`, besides those in `seen`. -/
def reach (f : Nat → Nat) : Nat → Nat → Nat → Nat
  | 0, seen, _ => seen
  | n + 1, seen, new =>
    let next := f new
    let fresh := next ^^^ (next &&& seen)
    if fresh == 0 then seen else reach f n (seen ||| fresh) fresh

/-- The places where matches end that begin in `s`. `size` is the number of places of the text. -/
def Plan.run (size : Nat) : Plan → Nat → Nat
  | .empty, s => s
  | .chars places, s => (s &&& places) <<< 1
  | .look places, s => s &&& places
  | .seq a b, s => let t := a.run size s; if t == 0 then 0 else b.run size t
  | .alt a b, s => a.run size s ||| b.run size s
  | .rep lo hi a, s =>
    let t := times (a.run size) lo s
    if t == 0 then 0
    else
      match hi with
      | none => reach (a.run size) size t t
      | some hi => reach (a.run size) (min (hi - lo) size) t t

/-- Whether a pattern matches somewhere in a text. -/
def Node.occursIn (word : Bool → Char → Bool) (n : Node) (text : List Char) : Bool :=
  let size := text.length + 1
  (n.plan word text).run size (pow2 size - 1) != 0

/-- Whether a pattern can match without consuming anything, and nothing else. -/
def Node.isNarrow : Node → Bool
  | .empty => true
  | .chars _ => false
  | .look _ => true
  | .seq a b => a.isNarrow && b.isNarrow
  | .alt a b => a.isNarrow && b.isNarrow
  | .rep _ hi a => hi == some 0 || a.isNarrow

/-- A repetition. What matches nothing but the empty text is repeated at most once. -/
def Node.repeated (lo : Nat) (hi : Option Nat) (a : Node) : Node :=
  let (lo, hi) := if a.isNarrow then (min lo 1, some (min (hi.getD 1) 1)) else (lo, hi)
  if lo == 0 && hi == some 0 then .empty
  else if lo == 1 && hi == some 1 then a
  else .rep lo hi a

/-! ## Size

A library builds an automaton for a pattern and refuses a pattern whose automaton would be too large.
The numbers here estimate that size: they draw the bound about where such libraries draw it. -/

/-- How many runs of bytes the characters of a range take, by the number of their bytes. -/
def byteRuns (r : Unicode.Range) : Nat :=
  let wide (lo hi unit : Nat) : Nat :=
    let a := max r.1 lo
    let b := min r.2 hi
    if a ≤ b then
      let whole := b / unit - a / unit
      if whole == 0 then 1 else if whole ≤ 2 then whole + 1 else 3
    else 0
  wide 0 0x7F 128 + wide 0x80 0x7FF 64 + wide 0x800 0xFFFF 64 + wide 0x10000 0x10FFFF 64

/-- About how many bytes an automaton for a set takes. -/
def CharSet.weight (s : CharSet) : Nat :=
  if s.isAscii then (if s.length ≤ 1 then 32 else 32 + 8 * s.length)
  else 64 + 48 * s.foldl (fun n r => n + byteRuns r) 0

/-- About how many bytes an automaton for a pattern takes. -/
def Node.weight : Node → Nat
  | .empty => 32
  | .chars s => s.weight
  | .look _ => 32
  | .seq a b => a.weight + b.weight
  | .alt a b => a.weight + b.weight + 48
  | .rep lo none a => (if lo == 0 then 1 else lo) * a.weight + 72
  | .rep lo (some hi) a => hi * a.weight + (hi - lo) * 40

/-- The greatest automaton that is built. -/
def weightLimit : Nat := 10 * 1024 * 1024

end Sluice.Pattern
