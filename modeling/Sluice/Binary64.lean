import Sluice.Power
/-!
# Binary floating point, exactly

Non-negative finite numbers of 53 significant bits, as a pair of integers, with rounding to the
nearest (ties to the even neighbour) done in exact integer arithmetic. A result above the greatest
such number is `none`.

* `round` rounds a quotient; every other operation is `round` of the exact result.
* `shortest` finds the fewest decimal digits that still round to the number.
-/
namespace Sluice

/-- The number `mant * 2 ^ exp`. In a rounded number either `2^52 ≤ mant < 2^53`, or `exp` is the
least exponent, -1074, and `mant < 2^52`. -/
structure Binary64 where
  mant : Nat
  exp : Int
  deriving DecidableEq, Repr

namespace Binary64

/-- Zero. -/
def zero : Binary64 := ⟨0, -1074⟩

/-- `num * 2 ^ e` as a quotient of natural numbers. -/
def scale (num den : Nat) (e : Int) : Nat × Nat :=
  if 0 ≤ e then (num * pow2 e.toNat, den) else (num, den * pow2 (-e).toNat)

/-- The quotient `num / den` to the nearest integer, a tie to the even one. -/
def divNearest (num den : Nat) : Nat :=
  let q := num / den
  let r := num % den
  if 2 * r > den || (2 * r == den && q % 2 == 1) then q + 1 else q

/-- The nearest number to the quotient `num / den`, a tie to the even one; `none` when that lies
above the greatest number. -/
def round (num den : Nat) : Option Binary64 :=
  if num == 0 || den == 0 then some zero
  else
    let guess : Int := Int.ofNat (Nat.log2 num) - Int.ofNat (Nat.log2 den) - 53
    let low : Int := if guess < -1074 then -1074 else guess
    let at_ (e : Int) : Nat := let p := scale num den (-e); p.1 / p.2
    let e : Int :=
      if at_ low < pow2 53 then low
      else if at_ (low + 1) < pow2 53 then low + 1
      else low + 2
    let p := scale num den (-e)
    let m := divNearest p.1 p.2
    let r : Binary64 := if m == pow2 53 then ⟨pow2 52, e + 1⟩ else ⟨m, e⟩
    if r.exp > 971 then none else some r

/-- The exact value, as a quotient of natural numbers. -/
def ratio (x : Binary64) : Nat × Nat := scale x.mant 1 x.exp

/-- The nearest number to a natural number. -/
def ofNat (n : Nat) : Option Binary64 := round n 1

/-- The nearest number to `digits * 10 ^ e`. -/
def ofDecimal (digits : Nat) (e : Int) : Option Binary64 :=
  if 0 ≤ e then round (digits * pow10 e.toNat) 1 else round digits (pow10 (-e).toNat)

/-- The rounded sum. -/
def add (x y : Binary64) : Option Binary64 :=
  let a := x.ratio
  let b := y.ratio
  round (a.1 * b.2 + b.1 * a.2) (a.2 * b.2)

/-- The rounded product. -/
def mul (x y : Binary64) : Option Binary64 :=
  let a := x.ratio
  let b := y.ratio
  round (a.1 * b.1) (a.2 * b.2)

/-- The rounded quotient, for a divisor other than zero. -/
def div (x y : Binary64) : Option Binary64 :=
  let a := x.ratio
  let b := y.ratio
  round (a.1 * b.2) (a.2 * b.1)

/-- The nearest integer, a half away from zero. -/
def toNearest (x : Binary64) : Nat :=
  let a := x.ratio
  (2 * a.1 + a.2) / (2 * a.2)

/-- Whether the number is greater than a natural number. -/
def exceeds (x : Binary64) (n : Nat) : Bool :=
  let a := x.ratio
  n * a.2 < a.1

/-- How many decimal digits a natural number has, counting at most `fuel`. -/
def digitCount : Nat → Nat → Nat
  | 0, _ => 0
  | fuel + 1, n => if n < 10 then 1 else digitCount fuel (n / 10) + 1

/-- The exponent of the leading decimal digit of a number other than zero. -/
def leading (x : Binary64) : Int :=
  let a := x.ratio
  Int.ofNat (digitCount 700 (a.1 * pow10 330 / a.2)) - 331

/-- The decimals that round to a number, as exact bounds; the bounds themselves count exactly when
the mantissa is even. -/
structure Interval where
  low : Nat × Nat
  high : Nat × Nat
  closed : Bool

/-- The decimals that round to `x`. The gap below a power of two is half the gap above it. -/
def interval (x : Binary64) : Interval :=
  let below := if x.mant == pow2 52 && x.exp > -1074 then 1 else 2
  ⟨scale (4 * x.mant - below) 1 (x.exp - 2), scale (4 * x.mant + 2) 1 (x.exp - 2), x.mant % 2 == 0⟩

/-- Whether `a * 10 ^ k` lies in an interval. -/
def Interval.holds (i : Interval) (a : Nat) (k : Int) : Bool :=
  let p : Nat × Nat := if 0 ≤ k then (a * pow10 k.toNat, 1) else (a, pow10 (-k).toNat)
  let lo := i.low.1 * p.2
  let lo' := p.1 * i.low.2
  let hi := p.1 * i.high.2
  let hi' := i.high.1 * p.2
  if i.closed then lo ≤ lo' && hi ≤ hi' else lo < lo' && hi < hi'

/-- Of the two neighbours of `x` among the multiples of `10 ^ k`, the nearer one that rounds to
`x`. -/
def onGrid (x : Binary64) (k : Int) : Option Nat :=
  let i := x.interval
  let v := x.ratio
  let p : Nat × Nat := if 0 ≤ k then (v.1, v.2 * pow10 k.toNat) else (v.1 * pow10 (-k).toNat, v.2)
  let a := p.1 / p.2
  let below := i.holds a k && a != 0
  let above := i.holds (a + 1) k
  match below, above with
  | true, true => some (divNearest p.1 p.2)
  | true, false => some a
  | false, true => some (a + 1)
  | false, false => none

/-- The first grid with a hit, from the coarse to the fine. -/
def search (x : Binary64) : Nat → Int → Nat × Int
  | 0, k => (x.onGrid k |>.getD 0, k)
  | fuel + 1, k =>
    match x.onGrid k with
    | some a => (a, k)
    | none => search x fuel (k - 1)

/-- The fewest decimal digits that round to `x`, as `(a, k)` for `a * 10 ^ k`. -/
def shortest (x : Binary64) : Nat × Int :=
  if x.mant == 0 then (0, 0) else search x 18 (x.leading + 1)

end Binary64
end Sluice
