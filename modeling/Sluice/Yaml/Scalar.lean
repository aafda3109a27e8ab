import Sluice.Json.Reader
import Sluice.Yaml.Cursor
/-!
# Scalars of YAML

The text of plain, quoted and block scalars. Within a scalar a single line end becomes a space and
further ones stay, unless the scalar is a literal block.
-/
namespace Sluice.Yaml

/-- How a scalar is written. -/
inductive Style where
  | plain
  | quoted
  | literal
  | folded
  deriving DecidableEq, Repr

namespace Scalar

/-! ## Folding -/

/-- White space within a scalar: the blanks before the first line end, or that line end and the
further ones. -/
structure Gap where
  blanks : List Char
  /-- Whether a line has ended. -/
  broken : Bool
  first : List Char
  further : List Char

namespace Gap

/-- No white space. -/
def empty : Gap := ⟨[], false, [], []⟩

/-- The text that white space stands for. -/
def text (g : Gap) : List Char :=
  if !g.broken then g.blanks
  else if g.first = ['\n'] then (if g.further.isEmpty then [' '] else g.further)
  else g.first ++ g.further

/-- Adds a blank. -/
def blank (g : Gap) (x : Char) : Gap := if g.broken then g else { g with blanks := g.blanks ++ [x] }

/-- Adds a line end. -/
def newline (g : Gap) (t : List Char) : Gap :=
  if g.broken then { g with further := g.further ++ t } else ⟨[], true, t, []⟩

end Gap

/-- Passes white space. In a line that is not indented enough there must be no tab. -/
def gap (indent : Nat) : Nat → Gap → Cursor → Option (Gap × Cursor)
  | 0, g, c => some (g, c)
  | fuel + 1, g, c =>
    match c.peek 0 with
    | none => some (g, c)
    | some x =>
      if isBlank x then
        if g.broken && c.column < indent && x == '\t' then none
        else gap indent fuel (g.blank x) c.skip
      else if isBreak x then
        let (t, c) := c.newline
        gap indent fuel (g.newline t) c
      else some (g, c)

/-! ## Quoted scalars -/

/-- The characters that single-letter escapes stand for. -/
def escapes : List (Char × Char) := [
  ('0', '\x00'), ('a', '\x07'), ('b', '\x08'), ('t', '\t'), ('\t', '\t'), ('n', '\n'), ('v', '\x0b'),
  ('f', '\x0c'), ('r', '\r'), ('e', '\x1b'), (' ', ' '), ('"', '"'), ('/', '/'), ('\\', '\\'),
  ('N', '\u0085'), ('_', '\u00a0'), ('L', '\u2028'), ('P', '\u2029')]

/-- The number that hex digits spell, if all of them are. -/
def hexNumber? (digits : List Char) : Option Nat :=
  digits.foldl (fun n d => do
    let n ← n
    let v ← Json.hexValue? (UInt8.ofNat (if d.toNat < 128 then d.toNat else 0))
    return n * 16 + v) (some 0)

/-- A character given by a number of hex digits. -/
def hexEscape (count : Nat) (c : Cursor) : Option (Char × Cursor) := do
  let digits := c.rest.take count
  if digits.length < count then none
  else
    let n ← hexNumber? digits
    if n.isValidChar then return (Char.ofNat n, c.skipN count) else none

/-- The character that an escape stands for. The backslash has been passed. -/
def escape (c : Cursor) : Option (Char × Cursor) :=
  match c.peek 0 with
  | some 'x' => hexEscape 2 c.skip
  | some 'u' => hexEscape 4 c.skip
  | some 'U' => hexEscape 8 c.skip
  | some x => (escapes.lookup x).map fun y => (y, c.skip)
  | none => none

/-- The text of a quoted scalar after its first quote. The text so far is in reverse. -/
def quotedFrom (single : Bool) : Nat → List Char → Cursor → Option (String × Cursor)
  | 0, _, _ => none
  | fuel + 1, acc, c =>
    if c.atDocumentMark then none
    else
      match c.peek 0 with
      | none => none
      | some x =>
        if isSpace x then
          match gap 0 c.rest.length .empty c with
          | none => none
          | some (g, c) => quotedFrom single fuel (g.text.reverse ++ acc) c
        else if x == '\'' && single then
          if c.peek 1 == some '\'' then quotedFrom single fuel (x :: acc) (c.skipN 2)
          else some (String.ofList acc.reverse, c.skip)
        else if x == '"' && !single then some (String.ofList acc.reverse, c.skip)
        else if x == '\\' && !single then
          if (c.peek 1).any isBreak then
            let (_, c) := c.skip.newline
            match gap 0 c.rest.length ⟨[], true, [], []⟩ c with
            | none => none
            | some (g, c) => quotedFrom single fuel (g.text.reverse ++ acc) c
          else
            match escape c.skip with
            | none => none
            | some (y, c) => quotedFrom single fuel (y :: acc) c
        else quotedFrom single fuel (x :: acc) c.skip

/-- A quoted scalar, from its first quote on. -/
def quoted (single : Bool) (c : Cursor) : Option (String × Cursor) :=
  quotedFrom single (c.rest.length + 1) [] c.skip

/-! ## Plain scalars -/

/-- Whether a character ends a plain scalar within brackets. -/
def isFlowIndicator (c : Char) : Bool := ",[]\x7b\x7d".toList.contains c

/-- Whether a colon stands right before a character that makes it ambiguous within brackets. -/
def isAmbiguousColon (c : Cursor) : Bool :=
  c.at? ':' && (c.peek 1).any fun x => isFlowIndicator x || x == '?'

/-- The text of a plain scalar, and whether a line has ended after it. Text so far is in reverse;
white space counts only when more text follows. -/
def plainFrom (inFlow : Bool) (indent : Nat) : Nat → List Char → Gap → Cursor →
    Option (String × Bool × Cursor)
  | 0, _, _, _ => none
  | fuel + 1, acc, g, c =>
    let done (g : Gap) (c : Cursor) := some (String.ofList acc.reverse, g.broken, c)
    match c.peek 0 with
    | none => done g c
    | some x =>
      if isSpace x then
        match gap indent c.rest.length g c with
        | none => none
        | some (g, c) =>
          if (!inFlow && c.column < indent) || c.atDocumentMark || c.at? '#' then done g c
          else plainFrom inFlow indent fuel acc g c
      else if inFlow && isAmbiguousColon c then none
      else if (x == ':' && c.endsWord 1) || (inFlow && isFlowIndicator x) then done g c
      else plainFrom inFlow indent fuel (x :: (g.text.reverse ++ acc)) .empty c.skip

/-- A plain scalar. -/
def plain (inFlow : Bool) (indent : Nat) (c : Cursor) : Option (String × Bool × Cursor) :=
  plainFrom inFlow indent (2 * c.rest.length + 1) [] .empty c

/-! ## Block scalars -/

/-- What becomes of the line ends after a block scalar. -/
inductive Chomping where
  | strip
  | clip
  | keep
  deriving DecidableEq, Repr

/-- A chomping mark. -/
def chomping? : Option Char → Option Chomping
  | some '+' => some .keep
  | some '-' => some .strip
  | _ => none

/-- An indentation mark: one digit, not nought. -/
def increment? : Option Char → Option Nat
  | some x => if x.isDigit && x != '0' then some (x.toNat - '0'.toNat) else none
  | none => none

/-- The header of a block scalar: its chomping, and how far it is indented, if that is said. -/
def header (c : Cursor) : Option (Chomping × Option Nat × Cursor) :=
  let zero (c : Cursor) : Bool := c.at? '0'
  match chomping? (c.peek 0) with
  | some ch =>
    let c := c.skip
    if zero c then none
    else
      match increment? (c.peek 0) with
      | some n => some (ch, some n, c.skip)
      | none => some (ch, none, c)
  | none =>
    if zero c then none
    else
      match increment? (c.peek 0) with
      | some n =>
        let c := c.skip
        match chomping? (c.peek 0) with
        | some ch => some (ch, some n, c.skip)
        | none => some (.clip, some n, c)
      | none => some (.clip, none, c)

/-- Passes the empty lines before a line of a block: the line ends, the greatest column come to, and
the place. Without an indentation every space counts as such. -/
def emptyLines (indent : Option Nat) : Nat → List Char → Nat → Cursor →
    Option (List Char × Nat × Cursor)
  | 0, _, _, _ => none
  | fuel + 1, acc, widest, c =>
    let within (c : Cursor) : Bool := indent.all fun n => c.column < n
    let spaces := (c.rest.takeWhile (· == ' ')).length
    let c := c.skipN (match indent with
      | none => spaces
      | some n => min spaces (n - c.column))
    let widest := max widest c.column
    if within c && c.at? '\t' then none
    else if c.atBreak then
      let (t, c) := c.newline
      emptyLines indent fuel (acc ++ t) widest c
    else some (acc, widest, c)

/-- The lines of a block, joined. `first` is the line end before the next line, and `blank` tells
whether the line before it began with a blank. -/
def blockLines (literal : Bool) (indent : Nat) : Nat → List Char → List Char → List Char → Bool →
    Cursor → Option (List Char × List Char × List Char × Cursor)
  | 0, _, _, _, _, _ => none
  | fuel + 1, acc, first, further, blank, c =>
    if c.column = indent && !c.atEnd then
      let startsBlank := c.atBlank
      let joint :=
        if !literal && first.head? == some '\n' && !blank && !startsBlank then
          (if further.isEmpty then [' '] else []) ++ further
        else first ++ further
      let (line, c) := c.span fun x => !isBreak x
      let (first, c) := c.newline
      match emptyLines (some indent) (c.rest.length + 1) [] 0 c with
      | none => none
      | some (further, _, c) =>
        blockLines literal indent fuel (acc ++ joint ++ line) first further startsBlank c
    else some (acc, first, further, c)

/-- Passes blanks and a comment up to the end of the line, and that end. -/
def restOfLine (c : Cursor) : Option Cursor :=
  let (_, c) := c.span isBlank
  let c := if c.at? '#' then (c.span fun x => !isBreak x).2 else c
  if c.atLineEnd then some c.newline.2 else none

/-- A block scalar after its mark. `outer` is the indentation around it, if there is any. -/
def block (literal : Bool) (outer : Option Nat) (c : Cursor) : Option (String × Cursor) := do
  let (ch, increment, c) ← header c
  let c ← restOfLine c
  let least := max 1 (outer.elim 0 (· + 1))
  let fixed := increment.map fun n => outer.elim n (· + n)
  let (breaks, widest, c) ← emptyLines fixed (c.rest.length + 1) [] 0 c
  let indent := fixed.getD (max widest least)
  let (text, first, further, c) ←
    blockLines literal indent (c.rest.length + 1) [] [] breaks false c
  let tail := match ch with
    | .strip => []
    | .clip => first
    | .keep => first ++ further
  return (String.ofList (text ++ tail), c)

end Scalar
end Sluice.Yaml
