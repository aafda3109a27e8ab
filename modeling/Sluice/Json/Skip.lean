import Sluice.Json.Reader
/-!
# Skipping JSON

A value whose content does not matter is only checked for its form: nesting is not limited, numbers
are not computed and characters are not decoded. Some faults are therefore reported otherwise than
when the value is read.
-/
namespace Sluice.Json.Skip

/-- An exponent, from its letter on. -/
def exponent (c : Cursor) : Except Fault Cursor :=
  let c := c.skip 1
  let c := if c.peek == 43 || c.peek == 45 then c.skip 1 else c
  if isDigit c.peek then .ok (skipDigits c)
  else .error ((if c.rest.isEmpty then c else c.skip 1).fault .invalidNumber)

/-- A fraction, from its point on. -/
def fraction (c : Cursor) : Except Fault Cursor :=
  let c := c.skip 1
  if !isDigit c.peek then .error (c.nextFault .invalidNumber)
  else
    let c := skipDigits c
    if isExponentMark c.peek then exponent c else .ok c

/-- What follows the whole digits of a number. -/
def numberTail (c : Cursor) : Except Fault Cursor :=
  if c.peek == 46 then fraction c
  else if isExponentMark c.peek then exponent c
  else .ok c

/-- A number without its sign. -/
def number (c : Cursor) : Except Fault Cursor :=
  if c.peek == 48 then
    let c := c.skip 1
    if isDigit c.peek then .error (c.nextFault .invalidNumber) else numberTail c
  else if isDigit c.peek then numberTail (skipDigits c)
  else .error ((if c.rest.isEmpty then c else c.skip 1).fault .invalidNumber)

/-- An escape, from behind its backslash. -/
def escaped (c : Cursor) : Except Fault Cursor :=
  match c.rest with
  | [] => .error (c.fault .eofString)
  | b :: _ =>
    let c := c.skip 1
    if [34, 92, 47, 98, 102, 110, 114, 116].contains b then .ok c
    else if b == 117 then
      match fourHex c with
      | .ok (_, c) => .ok c
      | .error e => .error e
    else .error (c.fault .invalidEscape)

/-- A string, from behind its opening quote. -/
def string (fuel : Nat) (c : Cursor) : Except Fault Cursor :=
  match fuel with
  | 0 => .error (c.fault .eofString)
  | fuel + 1 =>
    let c : Cursor := ⟨c.before + (c.rest.takeWhile isPlain).length, c.rest.dropWhile isPlain⟩
    match c.rest with
    | [] => .error (c.fault .eofString)
    | b :: _ =>
      if b == 34 then .ok (c.skip 1)
      else if b == 92 then
        match escaped (c.skip 1) with
        | .ok c => string fuel c
        | .error e => .error e
      else .error (c.fault .controlCharacter)

/-- The bracket that an open list or object waits for. -/
inductive Open where
  | list
  | object
  deriving DecidableEq, Repr

/-- The key of an entry and its colon. -/
def key (c : Cursor) : Except Fault Cursor :=
  let c := skipSpace c
  match c.rest with
  | [] => .error (c.nextFault .eofObject)
  | b :: _ =>
    if b != 34 then .error (c.nextFault .keyNotString)
    else
      match string (c.rest.length + 1) (c.skip 1) with
      | .error e => .error e
      | .ok c => colon c

mutual

/-- A value inside the brackets of `stack`, and everything up to the end of the outermost one. -/
def value (fuel : Nat) (stack : List Open) (c : Cursor) : Except Fault Cursor :=
  match fuel with
  | 0 => .error (c.fault .eofValue)
  | fuel + 1 =>
    let c := skipSpace c
    match c.rest with
    | [] => .error (c.nextFault .eofValue)
    | b :: _ =>
      let done (r : Except Fault Cursor) : Except Fault Cursor :=
        match r with
        | .error e => .error e
        | .ok c => after fuel true stack c
      match b with
      | 110 => done (word [117, 108, 108] (c.skip 1))
      | 116 => done (word [114, 117, 101] (c.skip 1))
      | 102 => done (word [97, 108, 115, 101] (c.skip 1))
      | 45 => done (number (c.skip 1))
      | 34 => done (string (c.rest.length + 1) (c.skip 1))
      | 91 => after fuel false (.list :: stack) (c.skip 1)
      | 123 => after fuel false (.object :: stack) (c.skip 1)
      | b => if isDigit b then done (number c) else .error (c.nextFault .expectedValue)

/-- What follows a value (`comma`) or an opening bracket. -/
def after (fuel : Nat) (comma : Bool) (stack : List Open) (c : Cursor) : Except Fault Cursor :=
  match fuel with
  | 0 => .error (c.fault .eofValue)
  | fuel + 1 =>
    match stack with
    | [] => .ok c
    | top :: below =>
      let c := skipSpace c
      let next (c : Cursor) : Except Fault Cursor :=
        match top with
        | .list => value fuel stack c
        | .object =>
          match key c with
          | .error e => .error e
          | .ok c => value fuel stack c
      match c.rest with
      | [] => .error (c.nextFault (if top = .list then .eofList else .eofObject))
      | b :: _ =>
        if b == 44 && comma then next (c.skip 1)
        else if (b == 93 && top = .list) || (b == 125 && top = .object) then
          after fuel true below (c.skip 1)
        else if comma then
          .error (c.nextFault
            (if top = .list then .expectedListCommaOrEnd else .expectedObjectCommaOrEnd))
        else next c

end

end Sluice.Json.Skip
