/-!
# A place in a YAML stream

The characters that are left, with the place they are at, and the classes of characters that the
lexical rules speak of.
-/
namespace Sluice.Yaml

/-- A place in a stream. Lines, columns and characters count from nought. -/
structure Cursor where
  rest : List Char
  index : Nat
  line : Nat
  column : Nat

/-- Whether a character ends a line. -/
def isBreak (c : Char) : Bool :=
  c == '\n' || c == '\r' || c == '\u0085' || c == '\u2028' || c == '\u2029'

/-- Whether a character is a space or a tab. -/
def isBlank (c : Char) : Bool := c == ' ' || c == '\t'

/-- Whether a character is white space. -/
def isSpace (c : Char) : Bool := isBlank c || isBreak c

/-- Whether a character may stand in a name. -/
def isNameChar (c : Char) : Bool := c.isAlphanum || c == '-' || c == '_'

/-- Whether a character may stand in a stream. -/
def isPrintable (c : Char) : Bool :=
  let n := c.toNat
  n == 9 || n == 10 || n == 13 || (0x20 ≤ n && n ≤ 0x7E) || n == 0x85 ||
    (0xA0 ≤ n && n ≤ 0xD7FF) || (0xE000 ≤ n && n ≤ 0xFFFD) || 0x10000 ≤ n

/-- The text that a line end stands for: the ends of plain text files are all the same. -/
def breakText (c : Char) : List Char := if c == '\u2028' || c == '\u2029' then [c] else ['\n']

namespace Cursor

/-- The start of a stream. -/
def start (s : List Char) : Cursor := ⟨s, 0, 0, 0⟩

/-- The character a number of places ahead. -/
def peek (c : Cursor) (n : Nat) : Option Char := c.rest[n]?

/-- Whether a character is next. -/
def at? (c : Cursor) (x : Char) : Bool := c.peek 0 == some x

/-- Whether nothing is left. -/
def atEnd (c : Cursor) : Bool := c.rest.isEmpty

/-- Whether white space or the end is a number of places ahead. -/
def endsWord (c : Cursor) (n : Nat) : Bool :=
  match c.peek n with
  | none => true
  | some x => isSpace x

/-- Whether a space or a tab is next. -/
def atBlank (c : Cursor) : Bool := (c.peek 0).any isBlank

/-- Whether a line end is next. -/
def atBreak (c : Cursor) : Bool := (c.peek 0).any isBreak

/-- Whether the line or the stream ends here. -/
def atLineEnd (c : Cursor) : Bool := c.atEnd || c.atBreak

/-- Passes a character of the line. -/
def skip (c : Cursor) : Cursor :=
  { c with rest := c.rest.drop 1, index := c.index + 1, column := c.column + 1 }

/-- Passes characters of the line. -/
def skipN (c : Cursor) (n : Nat) : Cursor :=
  { c with rest := c.rest.drop n, index := c.index + n, column := c.column + n }

/-- Passes a line end, if one is next: the text it stands for, and the place after it. -/
def newline (c : Cursor) : List Char × Cursor :=
  match c.rest with
  | '\r' :: '\n' :: rest => (['\n'], ⟨rest, c.index + 2, c.line + 1, 0⟩)
  | x :: rest => if isBreak x then (breakText x, ⟨rest, c.index + 1, c.line + 1, 0⟩) else ([], c)
  | [] => ([], c)

/-- Passes the characters of the line that a test lets pass: these, and the place after them. -/
def span (p : Char → Bool) (c : Cursor) : List Char × Cursor :=
  let passed := c.rest.takeWhile p
  (passed, c.skipN passed.length)

/-- Whether a mark between documents is next. -/
def atDocumentMark (c : Cursor) : Bool :=
  c.column == 0 && (c.rest.take 3 == ['-', '-', '-'] || c.rest.take 3 == ['.', '.', '.']) &&
    c.endsWord 3

end Cursor
end Sluice.Yaml
