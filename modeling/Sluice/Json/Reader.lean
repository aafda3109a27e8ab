import Sluice.Json.Value
import Sluice.Text.Utf8
/-!
# Reading JSON

A reader of JSON over bytes. A fault has a cause and the place (a count of bytes) where it is
reported: the bytes consumed so far, or one more when the fault lies in the byte that comes next.
Places become lines and columns only in `Fault.message`.

Numbers are read the quick way. The digits are gathered in 64 bits for as long as they fit; a whole
digit that no longer fits raises the exponent, a fraction digit is dropped; then one floating point
multiplication or division applies the exponent. This is not always the nearest number.

Nesting is limited: `depth` counts the brackets that may still be opened.
-/
namespace Sluice.Json

/-- Why a text is not the JSON that was asked for. -/
inductive Cause where
  | eofValue
  | eofString
  | eofList
  | eofObject
  | expectedColon
  | expectedListCommaOrEnd
  | expectedObjectCommaOrEnd
  | expectedIdent
  | expectedValue
  | invalidEscape
  | invalidNumber
  | numberOutOfRange
  | invalidCodePoint
  | controlCharacter
  | keyNotString
  | loneSurrogate
  | trailingComma
  | trailingCharacters
  | endOfHexEscape
  | recursionLimit
  /-- The text is JSON, but not of the expected shape. -/
  | shape (text : String)
  deriving DecidableEq, Repr

/-- The text shown for a cause. -/
def Cause.message : Cause → String
  | .eofValue => "EOF while parsing a value"
  | .eofString => "EOF while parsing a string"
  | .eofList => "EOF while parsing a list"
  | .eofObject => "EOF while parsing an object"
  | .expectedColon => "expected `:`"
  | .expectedListCommaOrEnd => "expected `,` or `]`"
  | .expectedObjectCommaOrEnd => "expected `,` or `\x7d`"
  | .expectedIdent => "expected ident"
  | .expectedValue => "expected value"
  | .invalidEscape => "invalid escape"
  | .invalidNumber => "invalid number"
  | .numberOutOfRange => "number out of range"
  | .invalidCodePoint => "invalid unicode code point"
  | .controlCharacter => "control character (\\u0000-\\u001F) found while parsing a string"
  | .keyNotString => "key must be a string"
  | .loneSurrogate => "lone leading surrogate in hex escape"
  | .trailingComma => "trailing comma"
  | .trailingCharacters => "trailing characters"
  | .endOfHexEscape => "unexpected end of hex escape"
  | .recursionLimit => "recursion limit exceeded"
  | .shape t => t

/-- A cause and the number of bytes before the place where it is reported. -/
structure Fault where
  cause : Cause
  place : Nat
  deriving DecidableEq, Repr

/-- The line (from 1) of a place, and the number of bytes since the line began. -/
def position (text : List UInt8) (place : Nat) : Nat × Nat :=
  (text.take place).foldl (fun p b => if b == 10 then (p.1 + 1, 0) else (p.1, p.2 + 1)) (1, 0)

/-- The text shown for a fault of `text`. -/
def Fault.message (text : List UInt8) (f : Fault) : String :=
  let p := position text f.place
  f.cause.message ++ " at line " ++ toString p.1 ++ " column " ++ toString p.2

/-- What is left to read, and how many bytes stand before it. -/
structure Cursor where
  before : Nat
  rest : List UInt8
  deriving DecidableEq, Repr

/-- What a reader returns: its result with what is left, or a fault. -/
abbrev Reading (α : Type) := Except Fault (α × Cursor)

namespace Cursor

/-- The start of a text. -/
def start (text : List UInt8) : Cursor := ⟨0, text⟩

/-- A fault in what has been consumed. -/
def fault (c : Cursor) (cause : Cause) : Fault := ⟨cause, c.before⟩

/-- A fault in the byte that comes next, or at the end. -/
def nextFault (c : Cursor) (cause : Cause) : Fault :=
  ⟨cause, if c.rest.isEmpty then c.before else c.before + 1⟩

/-- Past the next `n` bytes. -/
def skip (c : Cursor) (n : Nat) : Cursor := ⟨c.before + n, c.rest.drop n⟩

/-- The next byte; nought at the end. -/
def peek (c : Cursor) : UInt8 := c.rest.headD 0

end Cursor

/-- Space, line feed, carriage return and tab. -/
def isSpace (b : UInt8) : Bool := b == 32 || b == 10 || b == 13 || b == 9

/-- The bytes of the ten digits. -/
def isDigit (b : UInt8) : Bool := 48 ≤ b && b ≤ 57

/-- Past the space. -/
def skipSpace (c : Cursor) : Cursor :=
  ⟨c.before + (c.rest.takeWhile isSpace).length, c.rest.dropWhile isSpace⟩

/-- Past the digits. -/
def skipDigits (c : Cursor) : Cursor :=
  ⟨c.before + (c.rest.takeWhile isDigit).length, c.rest.dropWhile isDigit⟩

/-- The remaining bytes of a word such as `true`. -/
def word (expected : List UInt8) (c : Cursor) : Except Fault Cursor :=
  match expected with
  | [] => .ok c
  | e :: es =>
    match c.rest with
    | [] => .error (c.fault .eofValue)
    | b :: _ => if b == e then word es (c.skip 1) else .error ((c.skip 1).fault .expectedIdent)

/-! ## Numbers -/

/-- The greatest number of 64 bits. -/
def maxU64 : Nat := pow2 64 - 1

/-- Gathers digits as long as the sum fits in 64 bits: the sum, how many digits it took, and what is
left. -/
def gather (sum count : Nat) (before : Nat) : List UInt8 → Nat × Nat × Cursor
  | [] => (sum, count, ⟨before, []⟩)
  | b :: rest =>
    if isDigit b && sum * 10 + (b.toNat - 48) ≤ maxU64 then
      gather (sum * 10 + (b.toNat - 48)) (count + 1) (before + 1) rest
    else (sum, count, ⟨before, b :: rest⟩)

/-- `x` divided by `10 ^ 308` until the exponent is at most 308 in size; then by what is left. -/
def divTen : Nat → Binary64 → Nat → Binary64
  | 0, x, _ => x
  | fuel + 1, x, e =>
    if e ≤ 308 then ((Binary64.ofNat (pow10 e)).bind x.div).getD Binary64.zero
    else if x.mant == 0 then x
    else divTen fuel (((Binary64.ofNat (pow10 308)).bind x.div).getD Binary64.zero) (e - 308)

/-- The floating point number of `sum * 10 ^ e`, computed in floating point; `none` when it is
above the greatest number. -/
def ofParts (sum : Nat) (e : Int) : Option Binary64 := do
  let x ← Binary64.ofNat sum
  if 0 ≤ e then
    if e ≤ 308 then x.mul (← Binary64.ofNat (pow10 e.toNat))
    else if x.mant == 0 then some x
    else none
  else some (divTen 8 x (-e).toNat)

/-- The end of a floating point number. -/
def finish (negative : Bool) (sum : Nat) (e : Int) (c : Cursor) : Reading Number :=
  match ofParts sum e with
  | some x => .ok (.float negative x, c)
  | none => .error (c.fault .numberOutOfRange)

/-- Gathers the digits of an exponent as long as it fits in 31 bits; `none` when it does not, with
the cursor past the digit that was too much. -/
def exponentDigits (sum : Nat) (before : Nat) : List UInt8 → Option Nat × Cursor
  | [] => (some sum, ⟨before, []⟩)
  | b :: rest =>
    if isDigit b then
      if sum * 10 + (b.toNat - 48) ≤ pow2 31 - 1 then
        exponentDigits (sum * 10 + (b.toNat - 48)) (before + 1) rest
      else (none, ⟨before + 1, rest⟩)
    else (some sum, ⟨before, b :: rest⟩)

/-- The exponent of a number, from its letter on. -/
def exponent (negative : Bool) (sum : Nat) (e : Int) (c : Cursor) : Reading Number :=
  let c := c.skip 1
  let up := c.peek != 45
  let c := if c.peek == 43 || c.peek == 45 then c.skip 1 else c
  match c.rest with
  | [] => .error (c.fault .eofValue)
  | b :: rest =>
    if !isDigit b then .error ((c.skip 1).fault .invalidNumber)
    else
      match exponentDigits (b.toNat - 48) (c.before + 1) rest with
      | (some n, c) => finish negative sum (if up then e + n else e - n) c
      | (none, c) =>
        if sum != 0 && up then .error (c.fault .numberOutOfRange)
        else .ok (.float negative Binary64.zero, skipDigits c)

/-- The letter of an exponent. -/
def isExponentMark (b : UInt8) : Bool := b == 101 || b == 69

/-- The fraction of a number, from its point on. -/
def fraction (negative : Bool) (sum : Nat) (e : Int) (c : Cursor) : Reading Number :=
  let c := c.skip 1
  match gather sum 0 c.before c.rest with
  | (sum, count, c) =>
    if isDigit c.peek then
      let c := skipDigits c
      if isExponentMark c.peek then exponent negative sum (e - count) c
      else finish negative sum (e - count) c
    else if count == 0 then
      .error (c.nextFault (if c.rest.isEmpty then .eofValue else .invalidNumber))
    else if isExponentMark c.peek then exponent negative sum (e - count) c
    else finish negative sum (e - count) c

/-- A number without fraction and exponent. Negative zero, and what is too far below zero, is
floating point. -/
def wholeNumber (negative : Bool) (sum : Nat) : Number :=
  if !negative then .whole sum
  else if sum == 0 || pow2 63 < sum then
    .float true ((Binary64.ofNat sum).getD Binary64.zero)
  else .whole (-(Int.ofNat sum))

/-- What follows the whole digits of a number. -/
def numberTail (negative : Bool) (sum : Nat) (c : Cursor) : Reading Number :=
  if c.peek == 46 then fraction negative sum 0 c
  else if isExponentMark c.peek then exponent negative sum 0 c
  else .ok (wholeNumber negative sum, c)

/-- A number without its sign. -/
def number (negative : Bool) (c : Cursor) : Reading Number :=
  match c.rest with
  | [] => .error (c.fault .eofValue)
  | b :: rest =>
    if b == 48 then
      let c := c.skip 1
      if isDigit c.peek then .error (c.nextFault .invalidNumber) else numberTail negative 0 c
    else if isDigit b then
      match gather (b.toNat - 48) 1 (c.before + 1) rest with
      | (sum, _, c) =>
        if isDigit c.peek then
          let c' := skipDigits c
          let e : Int := Int.ofNat (c'.before - c.before)
          if c'.peek == 46 then fraction negative sum e c'
          else if isExponentMark c'.peek then exponent negative sum e c'
          else finish negative sum e c'
        else numberTail negative sum c
    else .error ((c.skip 1).fault .invalidNumber)

/-! ## Strings -/

/-- The value of a digit of base sixteen. -/
def hexValue? (b : UInt8) : Option Nat :=
  if 48 ≤ b && b ≤ 57 then some (b.toNat - 48)
  else if 97 ≤ b && b ≤ 102 then some (b.toNat - 87)
  else if 65 ≤ b && b ≤ 70 then some (b.toNat - 55)
  else none

/-- Four digits of base sixteen. -/
def fourHex (c : Cursor) : Reading Nat :=
  match c.rest with
  | a :: b :: d :: e :: _ =>
    match hexValue? a, hexValue? b, hexValue? d, hexValue? e with
    | some a, some b, some d, some e => .ok (a * 4096 + b * 256 + d * 16 + e, c.skip 4)
    | _, _, _, _ => .error ((c.skip 4).fault .invalidEscape)
  | rest => .error ((c.skip rest.length).fault .eofString)

/-- One byte that has to be `b`. -/
def escapeMark (b : UInt8) (c : Cursor) : Except Fault Cursor :=
  match c.rest with
  | [] => .error (c.fault .eofString)
  | x :: _ => if x == b then .ok (c.skip 1) else .error ((c.skip 1).fault .endOfHexEscape)

/-- A character written as `\u` and four digits, or as two of those when it needs a surrogate
pair. The cursor stands behind the first `\u`. -/
def unicodeEscape (c : Cursor) : Except Fault (Char × Cursor) := do
  let (n, c) ← fourHex c
  if 0xDC00 ≤ n && n ≤ 0xDFFF then throw (c.fault .loneSurrogate)
  else if n < 0xD800 || 0xDBFF < n then return (Char.ofNat n, c)
  else
    let c ← escapeMark 92 c
    let c ← escapeMark 117 c
    let (m, c) ← fourHex c
    if m < 0xDC00 || 0xDFFF < m then throw (c.fault .loneSurrogate)
    else return (Char.ofNat (0x10000 + (n - 0xD800) * 1024 + (m - 0xDC00)), c)

/-- The character of an escape, from behind its backslash. -/
def escaped (c : Cursor) : Reading Char :=
  match c.rest with
  | [] => .error (c.fault .eofString)
  | b :: _ =>
    let c := c.skip 1
    match b with
    | 34 => .ok ('"', c)
    | 92 => .ok ('\\', c)
    | 47 => .ok ('/', c)
    | 98 => .ok ('\x08', c)
    | 102 => .ok ('\x0c', c)
    | 110 => .ok ('\n', c)
    | 114 => .ok ('\r', c)
    | 116 => .ok ('\t', c)
    | 117 => unicodeEscape c
    | _ => .error (c.fault .invalidEscape)

/-- A byte that stands for itself inside a string. -/
def isPlain (b : UInt8) : Bool := b != 34 && b != 92 && 32 ≤ b

/-- The rest of a string, up to and with its closing quote. `done` holds the characters so far, last
first, and `bad` the place of the first byte that is not text; it is reported when the string
ends. -/
def stringTail (fuel : Nat) (done : List Char) (bad : Option Nat) (c : Cursor) : Reading String :=
  match fuel with
  | 0 => .error (c.fault .eofString)
  | fuel + 1 =>
    let raw := c.rest.takeWhile isPlain
    let piece := Text.Utf8.decode raw
    let bad := bad <|> (match piece with | .error i => some (c.before + i) | .ok _ => none)
    let done := (match piece with | .ok cs => cs | .error _ => []).reverse ++ done
    let c : Cursor := ⟨c.before + raw.length, c.rest.dropWhile isPlain⟩
    match c.rest with
    | [] => .error (c.fault .eofString)
    | b :: _ =>
      if b == 34 then
        match bad with
        | some i => .error ⟨.invalidCodePoint, i + 1⟩
        | none => .ok (String.ofList done.reverse, c.skip 1)
      else if b == 92 then
        match escaped (c.skip 1) with
        | .error e => .error e
        | .ok (ch, c) => stringTail fuel (ch :: done) bad c
      else .error ((c.skip 1).fault .controlCharacter)

/-- A string, from behind its opening quote. -/
def string (c : Cursor) : Reading String := stringTail (c.rest.length + 1) [] none c

/-! ## Lists and objects -/

/-- Whether a list goes on with another item (`true`, standing at the item) or ends (`false`,
standing at its bracket). -/
def nextItem (first : Bool) (c : Cursor) : Reading Bool :=
  let c := skipSpace c
  match c.rest with
  | [] => .error (c.nextFault .eofList)
  | b :: _ =>
    if b == 93 then .ok (false, c)
    else if first then .ok (true, c)
    else if b == 44 then
      let c := skipSpace (c.skip 1)
      match c.rest with
      | [] => .error (c.nextFault .eofValue)
      | b :: _ => if b == 93 then .error (c.nextFault .trailingComma) else .ok (true, c)
    else .error (c.nextFault .expectedListCommaOrEnd)

/-- Whether an object goes on with another key (`true`, standing at its quote) or ends (`false`,
standing at its brace). -/
def nextKey (first : Bool) (c : Cursor) : Reading Bool :=
  let c := skipSpace c
  match c.rest with
  | [] => .error (c.nextFault .eofObject)
  | b :: _ =>
    if b == 125 then .ok (false, c)
    else if first then
      if b == 34 then .ok (true, c) else .error (c.nextFault .keyNotString)
    else if b == 44 then
      let c := skipSpace (c.skip 1)
      match c.rest with
      | [] => .error (c.nextFault .eofValue)
      | b :: _ =>
        if b == 34 then .ok (true, c)
        else if b == 125 then .error (c.nextFault .trailingComma)
        else .error (c.nextFault .keyNotString)
    else .error (c.nextFault .expectedObjectCommaOrEnd)

/-- The colon between a key and its value. -/
def colon (c : Cursor) : Except Fault Cursor :=
  let c := skipSpace c
  match c.rest with
  | [] => .error (c.nextFault .eofObject)
  | b :: _ => if b == 58 then .ok (c.skip 1) else .error (c.nextFault .expectedColon)

/-! ## Values -/

mutual

/-- A value that may open `depth - 1` more brackets. -/
def value (fuel depth : Nat) (c : Cursor) : Reading Value :=
  match fuel with
  | 0 => .error (c.fault .eofValue)
  | fuel + 1 =>
    let c := skipSpace c
    match c.rest with
    | [] => .error (c.nextFault .eofValue)
    | b :: _ =>
      match b with
      | 110 =>
        match word [117, 108, 108] (c.skip 1) with
        | .ok c => .ok (.null, c)
        | .error e => .error e
      | 116 =>
        match word [114, 117, 101] (c.skip 1) with
        | .ok c => .ok (.bool true, c)
        | .error e => .error e
      | 102 =>
        match word [97, 108, 115, 101] (c.skip 1) with
        | .ok c => .ok (.bool false, c)
        | .error e => .error e
      | 45 =>
        match number true (c.skip 1) with
        | .ok (n, c) => .ok (.number n, c)
        | .error e => .error e
      | 34 =>
        match string (c.skip 1) with
        | .ok (s, c) => .ok (.string s, c)
        | .error e => .error e
      | 91 =>
        if depth ≤ 1 then .error (c.nextFault .recursionLimit)
        else items fuel (depth - 1) true [] (c.skip 1)
      | 123 =>
        if depth ≤ 1 then .error (c.nextFault .recursionLimit)
        else entries fuel (depth - 1) true [] (c.skip 1)
      | b =>
        if isDigit b then
          match number false c with
          | .ok (n, c) => .ok (.number n, c)
          | .error e => .error e
        else .error (c.nextFault .expectedValue)

/-- The rest of a list. `done` holds the items so far, last first. -/
def items (fuel depth : Nat) (first : Bool) (done : List Value) (c : Cursor) : Reading Value :=
  match fuel with
  | 0 => .error (c.fault .eofValue)
  | fuel + 1 =>
    match nextItem first c with
    | .error e => .error e
    | .ok (false, c) => .ok (.array done.reverse, c.skip 1)
    | .ok (true, c) =>
      match value fuel depth c with
      | .error e => .error e
      | .ok (v, c) => items fuel depth false (v :: done) c

/-- The rest of an object with the entries so far. -/
def entries (fuel depth : Nat) (first : Bool) (done : Object) (c : Cursor) : Reading Value :=
  match fuel with
  | 0 => .error (c.fault .eofValue)
  | fuel + 1 =>
    match nextKey first c with
    | .error e => .error e
    | .ok (false, c) => .ok (.object done, c.skip 1)
    | .ok (true, c) =>
      match string (c.skip 1) with
      | .error e => .error e
      | .ok (k, c) =>
        match colon c with
        | .error e => .error e
        | .ok c =>
          match value fuel depth c with
          | .error e => .error e
          | .ok (v, c) => entries fuel depth false (Keyed.insert k v done) c

end

/-- How many brackets a text may open within one another, and one more. -/
def depthLimit : Nat := 128

/-- Nothing but space may follow. -/
def ended (c : Cursor) : Except Fault Unit :=
  let c := skipSpace c
  if c.rest.isEmpty then .ok () else .error (c.nextFault .trailingCharacters)

/-- Reads a text that holds one value. -/
def read (text : List UInt8) : Except Fault Value := do
  let (v, c) ← value (2 * text.length + 2) depthLimit (.start text)
  ended c
  return v

end Sluice.Json
