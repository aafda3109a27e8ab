import Sluice.Power
import Sluice.Text.Blank
/-!
# Instants and dates

Points in time on the proleptic Gregorian calendar, read and written in the Internet date format.
A leap second is kept as the last second of its minute with a billion or more nanoseconds.

* `Instant.readStrict` reads the exact format: four-digit year, two-digit parts, an offset.
* `Instant.readRelaxed` also takes signed years, short parts, spaces between the parts and `UTC`.
* `Instant.print` writes an instant in UTC, with the fewest groups of three fraction digits.
-/
namespace Sluice

/-- A calendar date. -/
structure Date where
  year : Int
  month : Nat
  day : Nat
  deriving DecidableEq, Repr

namespace Date

/-- The years with 366 days. -/
def isLeap (year : Int) : Bool := year % 4 == 0 && (year % 100 != 0 || year % 400 == 0)

/-- How many days a month has. -/
def daysIn (year : Int) (month : Nat) : Nat :=
  match month with
  | 2 => if isLeap year then 29 else 28
  | 4 | 6 | 9 | 11 => 30
  | _ => 31

/-- The years that can be handled. -/
def minYear : Int := -262143

/-- The years that can be handled. -/
def maxYear : Int := 262142

/-- Whether a date exists. -/
def valid (d : Date) : Bool :=
  minYear ≤ d.year && d.year ≤ maxYear && 1 ≤ d.month && d.month ≤ 12 && 1 ≤ d.day &&
    d.day ≤ daysIn d.year d.month

/-- Days since 1970-01-01. Years are counted from March, so that a leap day ends its year, in
cycles of 400 years or 146097 days. -/
def toDays (d : Date) : Int :=
  let y : Int := if d.month ≤ 2 then d.year - 1 else d.year
  let cycle := y / 400
  let inCycle := y % 400
  let m : Int := (Int.ofNat d.month + 9) % 12
  let dayOfYear := (153 * m + 2) / 5 + Int.ofNat d.day - 1
  cycle * 146097 + (inCycle * 365 + inCycle / 4 - inCycle / 100 + dayOfYear) - 719468

/-- The date that lies so many days after 1970-01-01. -/
def ofDays (days : Int) : Date :=
  let z := days + 719468
  let cycle := z / 146097
  let d := z % 146097
  let y := (d - d / 1460 + d / 36524 - d / 146096) / 365
  let dayOfYear := d - (365 * y + y / 4 - y / 100)
  let m := (5 * dayOfYear + 2) / 153
  let month := if m < 10 then m + 3 else m - 9
  let year := cycle * 400 + y + (if month ≤ 2 then 1 else 0)
  ⟨year, month.toNat, (dayOfYear - (153 * m + 2) / 5 + 1).toNat⟩

end Date

/-- A point in time: seconds since 1970-01-01 and nanoseconds, a billion of them or more within a
leap second. -/
structure Instant where
  seconds : Int
  nanos : Nat
  deriving DecidableEq, Repr

namespace Instant

/-- Whether an instant lies on a date that can be handled. -/
def inRange (i : Instant) : Bool :=
  let y := (Date.ofDays (i.seconds / 86400)).year
  Date.minYear ≤ y && y ≤ Date.maxYear

/-- The instant so many milliseconds after 1970-01-01, if it can be handled. -/
def ofMillis? (n : Int) : Option Instant :=
  let i : Instant := ⟨n / 1000, (n % 1000).toNat * 1000000⟩
  if i.inRange then some i else none

/-! ## Writing -/

/-- A number in base ten with at least `width` digits. -/
def padded (width n : Nat) : List Char :=
  let ds := Nat.toDigits 10 n
  List.replicate (width - ds.length) '0' ++ ds

/-- A year: four digits, and a sign when those do not suffice. -/
def printYear (y : Int) : List Char :=
  if 0 ≤ y ∧ y ≤ 9999 then padded 4 y.toNat
  else (if y < 0 then '-' else '+') :: padded 4 y.natAbs

/-- The fraction of a second in three, six or nine digits, or nothing. -/
def printFraction (nanos : Nat) : List Char :=
  if nanos == 0 then []
  else if nanos % 1000000 == 0 then '.' :: padded 3 (nanos / 1000000)
  else if nanos % 1000 == 0 then '.' :: padded 6 (nanos / 1000)
  else '.' :: padded 9 nanos

/-- An instant in UTC. -/
def print (i : Instant) : List Char :=
  let d := Date.ofDays (i.seconds / 86400)
  let s := (i.seconds % 86400).toNat
  let leap := 1000000000 ≤ i.nanos
  printYear d.year ++ '-' :: padded 2 d.month ++ '-' :: padded 2 d.day ++ 'T' ::
    padded 2 (s / 3600) ++ ':' :: padded 2 (s / 60 % 60) ++ ':' ::
    padded 2 (if leap then s % 60 + 1 else s % 60) ++
    printFraction (if leap then i.nanos - 1000000000 else i.nanos) ++ ['Z']

/-! ## Reading -/

/-- Why a text is no instant. -/
inductive Fault where
  | tooShort
  | invalid
  | outOfRange
  | tooLong
  | notEnough
  | impossible
  deriving DecidableEq, Repr

/-- The text shown for a fault. -/
def Fault.message : Fault → String
  | .tooShort => "premature end of input"
  | .invalid => "input contains invalid characters"
  | .outOfRange => "input is out of range"
  | .tooLong => "trailing input"
  | .notEnough => "input is not enough for unique date and time"
  | .impossible => "no possible date and time matching input"

/-- A scanner consumes the front of a text. -/
abbrev Scanner := StateT (List Char) (Except Fault)

/-- Whether a text takes fewer than `n` bytes. -/
def shorterThan (n : Nat) (s : List Char) : Bool :=
  (String.ofList (s.take n)).utf8ByteSize < n

/-- The digits at the front, at most `max` of them: their value, their number and what is left. -/
def digits (max value count : Nat) : List Char → Nat × Nat × List Char
  | [] => (value, count, [])
  | c :: cs =>
    if count < max && c.isDigit then digits max (value * 10 + (c.toNat - 48)) (count + 1) cs
    else (value, count, c :: cs)

/-- A number of `min` to `max` digits that fits in 63 bits. -/
def number (min max : Nat) : Scanner Nat := fun s =>
  if shorterThan min s then .error .tooShort
  else match digits max 0 0 s with
    | (value, count, rest) =>
      if value ≥ pow2 63 then .error .outOfRange
      else if count < min then .error .invalid
      else .ok (value, rest)

/-- A number of `min` to `max` digits between `low` and `high`. -/
def part (min max low high : Nat) : Scanner Nat := do
  let n ← number min max
  if low ≤ n && n ≤ high then return n else throw .outOfRange

/-- One character. -/
def literal (c : Char) : Scanner Unit := fun s =>
  match s with
  | [] => .error .tooShort
  | x :: rest => if x == c then .ok ((), rest) else .error .invalid

/-- What stands between date and time. -/
def separator : Scanner Unit := fun s =>
  match s with
  | [] => .error .tooShort
  | c :: rest => if c == 'T' || c == 't' || c == ' ' then .ok ((), rest) else .error .invalid

/-- The fraction of a second after its point, in nanoseconds; digits after the ninth are dropped. -/
def fraction : Scanner Nat := fun s =>
  match s with
  | '.' :: rest =>
    if rest.isEmpty then .error .tooShort
    else match digits 9 0 0 rest with
      | (value, count, rest) =>
        if count == 0 then .error .invalid
        else .ok (value * pow10 (9 - count), rest.dropWhile Char.isDigit)
  | s => .ok (0, s)

/-- Two digits of an offset. -/
def twoDigits : Scanner (Nat × Nat) := fun s =>
  if shorterThan 2 s then .error .tooShort
  else match s with
    | a :: b :: rest =>
      if a.isDigit && b.isDigit then .ok ((a.toNat - 48, b.toNat - 48), rest) else .error .invalid
    | _ => .error .invalid

/-- The sign of an offset: whether it is negative. -/
def sign : Scanner Bool := fun s =>
  match s with
  | [] => .error .tooShort
  | c :: rest =>
    if c == '+' then .ok (false, rest)
    else if c == '-' || c == '\u2212' then .ok (true, rest)
    else .error .invalid

/-- An offset from UTC in seconds: `Z`, or a sign, hours and minutes with `between` in the middle. -/
def offset (between : Scanner Unit) : Scanner Int := fun s =>
  match s with
  | 'Z' :: rest => .ok (0, rest)
  | 'z' :: rest => .ok (0, rest)
  | s => (do
      let negative ← sign
      let h ← twoDigits
      between
      let m ← twoDigits
      if 6 ≤ m.1 then throw .outOfRange
      let n : Int := Int.ofNat ((h.1 * 10 + h.2) * 3600 + (m.1 * 10 + m.2) * 60)
      return (if negative then -n else n) : Scanner Int) s

/-- The parts of an instant as they were written. -/
structure Parts where
  date : Date
  hour : Nat
  minute : Nat
  second : Nat
  nanos : Nat
  offset : Int
  deriving DecidableEq, Repr

/-- The instant of these parts, if there is one. -/
def ofParts (p : Parts) : Except Fault Instant :=
  if !p.date.valid then .error .outOfRange
  else if p.offset ≤ -86400 || 86400 ≤ p.offset then .error .outOfRange
  else
    let leap := p.second == 60
    let second := if leap then 59 else p.second
    let local_ : Int := p.date.toDays * 86400 + Int.ofNat (p.hour * 3600 + p.minute * 60 + second)
    let i : Instant := ⟨local_ - p.offset, if leap then p.nanos + 1000000000 else p.nanos⟩
    if i.inRange then .ok i else .error .impossible

/-- The parts of the exact format. -/
def strictParts : Scanner Parts := do
  let year ← number 4 4
  literal '-'
  let month ← part 2 2 1 12
  literal '-'
  let day ← part 2 2 1 31
  separator
  let hour ← part 2 2 0 23
  literal ':'
  let minute ← part 2 2 0 59
  literal ':'
  let second ← part 2 2 0 60
  let nanos ← fraction
  let off ← offset (literal ':')
  if off < -86340 || 86340 < off then throw .outOfRange
  return ⟨⟨year, month, day⟩, hour, minute, second, nanos, off⟩

/-- Reads the exact format. -/
def readStrict (s : List Char) : Except Fault Instant :=
  match strictParts s with
  | .error e => .error e
  | .ok (p, rest) => if rest.isEmpty then ofParts p else .error .tooLong

/-- Past white space. -/
def blanks : Scanner Unit := fun s => .ok ((), Text.trimLeft s)

/-- Something has to follow. -/
def more : Scanner Unit := fun s => if s.isEmpty then .error .notEnough else .ok ((), s)

/-- A year that may carry a sign; without one it has at most four digits. -/
def signedYear : Scanner Int := do
  blanks
  let s ← get
  match s with
  | '-' :: rest =>
    set rest
    let n ← number 1 s.length
    if n > pow2 31 then throw .outOfRange
    return -(Int.ofNat n)
  | '+' :: rest =>
    set rest
    let n ← number 1 s.length
    if n ≥ pow2 31 then throw .outOfRange
    return n
  | _ => return (← number 1 4)

/-- A part of one or two digits after white space. -/
def shortPart (low high : Nat) : Scanner Nat := do
  blanks
  part 1 2 low high

/-- The separator of two parts, after white space. -/
def looseLiteral (c : Char) : Scanner Unit := do
  blanks
  literal c

/-- Any colons and white space. -/
def colons : Scanner Unit := fun s => .ok ((), s.dropWhile fun c => c == ':' || Text.isBlank c)

/-- The offset of the relaxed format. -/
def looseOffset : Scanner Int := fun s =>
  match s with
  | a :: b :: c :: rest =>
    if a.toUpper == 'U' && b.toUpper == 'T' && c.toUpper == 'C' then .ok (0, rest)
    else offset colons s
  | s => offset colons s

/-- The parts of the relaxed format. -/
def relaxedParts : Scanner Parts := do
  let year ← signedYear
  looseLiteral '-'
  let month ← shortPart 1 12
  looseLiteral '-'
  let day ← shortPart 1 31
  more
  separator
  let hour ← shortPart 0 23
  looseLiteral ':'
  let minute ← shortPart 0 59
  looseLiteral ':'
  let second ← shortPart 0 60
  let nanos ← fraction
  blanks
  more
  let off ← looseOffset
  return ⟨⟨year, month, day⟩, hour, minute, second, nanos, off⟩

/-- Reads the relaxed format; white space may follow. -/
def readRelaxed (s : List Char) : Except Fault Instant :=
  match relaxedParts s with
  | .error e => .error e
  | .ok (p, rest) => if (Text.trimLeft rest).isEmpty then ofParts p else .error .tooLong

end Instant
end Sluice
