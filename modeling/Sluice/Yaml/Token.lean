import Sluice.Yaml.Scalar
/-!
# Tokens of YAML

A stream as a list of tokens. Indentation becomes tokens of its own: a block begins where a line is
indented further and ends where one is indented less. That something is a key shows only at the
colon after it; its token is then put in before it.

`Token.ofText?` is the list of tokens of a stream, or nothing where the stream breaks a lexical rule.
-/
namespace Sluice.Yaml

/-- A token. -/
inductive Token where
  /-- A version directive with its numbers. -/
  | version (major minor : Nat)
  /-- A directive that says what a tag handle stands for. -/
  | handle (name meaning : String)
  | documentStart
  | documentEnd
  | blockSequence
  | blockMapping
  | blockEnd
  | flowSequence
  | flowSequenceEnd
  | flowMapping
  | flowMappingEnd
  | blockEntry
  | flowEntry
  | key
  | value
  | reference (name : String)
  | anchor (name : String)
  /-- A tag: its handle, if it has one, and what follows. -/
  | tag (handle suffix : String)
  | scalar (text : String) (style : Style)
  deriving DecidableEq, Repr

namespace Token

/-- A place where a key may have begun. -/
structure Candidate where
  possible : Bool
  /-- Whether it has to be a key: it is the first thing in a block mapping's line. -/
  required : Bool
  /-- The number of its first token. -/
  token : Nat
  index : Nat
  line : Nat
  column : Nat

namespace Candidate

/-- No key. -/
def nowhere : Candidate := ⟨false, false, 0, 0, 0, 0⟩

end Candidate

/-- How long a key may be that is not marked as one. -/
def keyLimit : Nat := 1024

/-- A stream that is being read. -/
structure Lexer where
  cursor : Cursor
  tokens : Array Token
  /-- How many brackets are open. -/
  depth : Nat
  /-- The indentation of the innermost block; none outside of blocks. -/
  indent : Option Nat
  /-- The indentations around it, innermost first. -/
  outer : List (Option Nat)
  /-- Of every open bracket, and of the blocks, where a key may have begun; innermost first. -/
  candidates : List Candidate
  /-- Whether a key may begin here. -/
  keyAllowed : Bool

namespace Lexer

/-- The start of a stream. -/
def start (s : List Char) : Lexer := ⟨.start s, #[], 0, none, [], [.nowhere], true⟩

/-- Adds a token. -/
def push (l : Lexer) (t : Token) : Lexer := { l with tokens := l.tokens.push t }

/-- Puts a token in before the token of a number. -/
def insert (l : Lexer) (n : Nat) (t : Token) : Lexer :=
  { l with tokens := (l.tokens.extract 0 n).push t ++ l.tokens.extract n l.tokens.size }

/-- Goes to a place. -/
def goto (l : Lexer) (c : Cursor) : Lexer := { l with cursor := c }

/-- Says whether a key may begin next. -/
def allowKey (l : Lexer) (allowed : Bool) : Lexer := { l with keyAllowed := allowed }

/-- Whether a column is to the right of the innermost block. -/
def isDeeper (l : Lexer) (column : Nat) : Bool :=
  match l.indent with
  | none => true
  | some n => n < column

/-! ### Keys -/

/-- Drops the candidates that are too far back; one that had to be a key is an error. -/
def dropStale (l : Lexer) : Option Lexer := do
  let check (k : Candidate) : Option Candidate :=
    if k.possible && (k.line < l.cursor.line || k.index + keyLimit < l.cursor.index) then
      if k.required then none else some { k with possible := false }
    else some k
  return { l with candidates := ← l.candidates.mapM check }

/-- Drops the innermost candidate. -/
def dropCandidate (l : Lexer) : Option Lexer :=
  match l.candidates with
  | [] => some l
  | k :: ks =>
    if k.possible && k.required then none
    else some { l with candidates := { k with possible := false } :: ks }

/-- Remembers that a key may begin here. -/
def saveCandidate (l : Lexer) : Option Lexer :=
  if !l.keyAllowed then some l
  else do
    let c := l.cursor
    let required := l.depth == 0 && l.indent == some c.column
    let l ← l.dropCandidate
    return { l with
      candidates := ⟨true, required, l.tokens.size, c.index, c.line, c.column⟩ :: l.candidates.drop 1 }

/-! ### Indentation -/

/-- Begins a block at a column, if it is to the right of the innermost one. Its token goes in before
the token of a number, or at the end. -/
def roll (l : Lexer) (column : Nat) (before : Option Nat) (t : Token) : Lexer :=
  if l.depth > 0 || !l.isDeeper column then l
  else
    let l := { l with outer := l.indent :: l.outer, indent := some column }
    match before with
    | some n => l.insert n t
    | none => l.push t

/-- Ends the blocks in a stack that are to the right of a column, or all of them. -/
def unrollFrom (column : Option Nat) (l : Lexer) : List (Option Nat) → Lexer
  | [] => l
  | below :: rest =>
    let ends : Bool := match l.indent, column with
      | some n, some column => column < n
      | some _, none => true
      | none, _ => false
    if ends then unrollFrom column { l.push .blockEnd with indent := below, outer := rest } rest
    else l

/-- Ends the blocks that are to the right of a column, or all of them. -/
def unroll (l : Lexer) (column : Option Nat) : Lexer :=
  if l.depth > 0 then l else unrollFrom column l l.outer

/-! ### White space -/

/-- Passes white space, comments and line ends up to the next token. After a line end outside of
brackets a key may begin. A byte order mark may begin a line. -/
def passSpace (l : Lexer) : Nat → Lexer
  | 0 => l
  | fuel + 1 =>
    let c := l.cursor
    let c := if c.column == 0 && c.at? '\ufeff' then c.skip else c
    let tabs := l.depth > 0 || !l.keyAllowed
    let (_, c) := c.span fun x => x == ' ' || (tabs && x == '\t')
    let c := if c.at? '#' then (c.span fun x => !isBreak x).2 else c
    if c.atBreak then
      passSpace { l with cursor := c.newline.2, keyAllowed := l.keyAllowed || l.depth == 0 } fuel
    else l.goto c

/-! ### Directives -/

/-- The number at a place, of at most nine digits. -/
def number (c : Cursor) : Option (Nat × Cursor) :=
  let (digits, c) := c.span Char.isDigit
  if digits.isEmpty || digits.length > 9 then none
  else some (digits.foldl (fun n d => n * 10 + (d.toNat - '0'.toNat)) 0, c)

/-- The numbers of a version. -/
def versionNumbers (c : Cursor) : Option (Token × Cursor) := do
  let (major, c) ← number (c.span isBlank).2
  if !c.at? '.' then none
  else
    let (minor, c) ← number c.skip
    return (.version major minor, c)

/-- A tag handle. Within a directive a name has to end with a mark. -/
def tagHandle (directive : Bool) (c : Cursor) : Option (String × Cursor) :=
  if !c.at? '!' then none
  else
    let (name, c) := c.skip.span isNameChar
    let text := '!' :: name
    if c.at? '!' then some (String.ofList (text ++ ['!']), c.skip)
    else if directive && !name.isEmpty then none
    else some (String.ofList text, c)

/-- Whether a character may stand in a tag. -/
def isTagChar (inUri : Bool) (x : Char) : Bool :=
  isNameChar x || ";/?:@&=+$.%!~*'()".toList.contains x || (inUri && ",[]".toList.contains x)

/-- The bytes of a character that is given by escaped bytes, and the place after them. -/
def escapedBytes : Nat → Cursor → Option (List UInt8 × Cursor)
  | 0, c => some ([], c)
  | n + 1, c => do
    if !c.at? '%' then none
    else
      let digits := c.skip.rest.take 2
      if digits.length < 2 then none
      else
        let value ← Scalar.hexNumber? digits
        let (more, c) ← escapedBytes n (c.skipN 3)
        return (UInt8.ofNat value :: more, c)

/-- A character of a tag that is given by escaped bytes. -/
def escapedChar (c : Cursor) : Option (List Char × Cursor) := do
  let (first, _) ← escapedBytes 1 c
  let count := match first with
    | [b] => if b < 0x80 then 1 else if b < 0xC0 then 0 else if b < 0xE0 then 2
      else if b < 0xF0 then 3 else if b < 0xF8 then 4 else 0
    | _ => 0
  if count = 0 then none
  else
    let (bytes, c) ← escapedBytes count c
    if (bytes.drop 1).all Text.Utf8.isTail then
      match Text.Utf8.decode bytes with
      | .ok cs => return (cs, c)
      | .error _ => none
    else none

/-- The characters of a tag. -/
def tagChars (inUri : Bool) : Nat → List Char → Cursor → Option (List Char × Cursor)
  | 0, acc, c => some (acc, c)
  | fuel + 1, acc, c =>
    match c.peek 0 with
    | none => some (acc, c)
    | some x =>
      if !isTagChar inUri x then some (acc, c)
      else if x == '%' then
        match escapedChar c with
        | none => none
        | some (cs, c) => tagChars inUri fuel (acc ++ cs) c
      else tagChars inUri fuel (acc ++ [x]) c.skip

/-- The meaning of a tag handle in a directive. -/
def handleMeaning (c : Cursor) : Option (Token × Cursor) := do
  let (name, c) ← tagHandle true (c.span isBlank).2
  if !c.atBlank then none
  else
    let (meaning, c) ← tagChars true (c.rest.length + 1) [] (c.span isBlank).2
    if meaning.isEmpty || !c.endsWord 0 then none
    else return (.handle name (String.ofList meaning), c)

/-- A directive. -/
def directive (l : Lexer) : Option Lexer := do
  let l ← (l.unroll none).dropCandidate
  let (name, c) := l.cursor.skip.span isNameChar
  if !c.endsWord 0 then none
  else
    let (t, c) ← match String.ofList name with
      | "YAML" => versionNumbers c
      | "TAG" => handleMeaning c
      | _ => none
    let c ← Scalar.restOfLine c
    return ((l.goto c).push t).allowKey false

/-! ### Anchors and tags -/

/-- An anchor, or a reference to one. -/
def named (l : Lexer) (make : String → Token) : Option Lexer := do
  let l ← l.saveCandidate
  let (name, c) := l.cursor.skip.span isNameChar
  if name.isEmpty then none
  else if c.endsWord 0 || (c.peek 0).any ("?:,]\x7d%@\x60".toList.contains ·) then
    return ((l.goto c).push (make (String.ofList name))).allowKey false
  else none

/-- The handle of a tag and what follows. -/
def tagParts (c : Cursor) : Option (String × String × Cursor) :=
  if c.peek 1 == some '<' then do
    let (uri, c) ← tagChars true (c.rest.length + 1) [] (c.skipN 2)
    if uri.isEmpty || !c.at? '>' then none
    else return ("", String.ofList uri, c.skip)
  else do
    let (mark, c) ← tagHandle false c
    let name := mark.toList
    if name.length > 1 && name.getLast? == some '!' then
      let (suffix, c) ← tagChars false (c.rest.length + 1) [] c
      if suffix.isEmpty then none else return (mark, String.ofList suffix, c)
    else
      let (suffix, c) ← tagChars false (c.rest.length + 1) (name.drop 1) c
      return if suffix.isEmpty then ("", "!", c) else ("!", String.ofList suffix, c)

/-- A tag. -/
def tagged (l : Lexer) : Option Lexer := do
  let l ← l.saveCandidate
  let (mark, suffix, c) ← tagParts l.cursor
  if (l.depth > 0 && c.at? ',') || c.endsWord 0 then
    return ((l.goto c).push (.tag mark suffix)).allowKey false
  else none

/-! ### Structure -/

/-- A mark between documents. -/
def documentMark (l : Lexer) (t : Token) : Option Lexer := do
  let l ← (l.unroll none).dropCandidate
  return ((l.goto (l.cursor.skipN 3)).push t).allowKey false

/-- An opening bracket. -/
def openFlow (l : Lexer) (t : Token) : Option Lexer := do
  let l ← l.saveCandidate
  return { (l.goto l.cursor.skip).push t with
    depth := l.depth + 1, candidates := .nowhere :: l.candidates, keyAllowed := true }

/-- A closing bracket. -/
def closeFlow (l : Lexer) (t : Token) : Option Lexer := do
  let l ← l.dropCandidate
  let l := if l.depth > 0 then { l with depth := l.depth - 1, candidates := l.candidates.drop 1 } else l
  return ((l.goto l.cursor.skip).push t).allowKey false

/-- A comma within brackets. -/
def flowEntry (l : Lexer) : Option Lexer := do
  let l ← l.dropCandidate
  return ((l.goto l.cursor.skip).push .flowEntry).allowKey true

/-- The dash before an entry of a block. -/
def blockEntry (l : Lexer) : Option Lexer := do
  if l.depth == 0 && !l.keyAllowed then none
  else
    let l ← (l.roll l.cursor.column none .blockSequence).dropCandidate
    return ((l.goto l.cursor.skip).push .blockEntry).allowKey true

/-- The mark before a key. -/
def keyMark (l : Lexer) : Option Lexer := do
  if l.depth == 0 && !l.keyAllowed then none
  else
    let l ← (l.roll l.cursor.column none .blockMapping).dropCandidate
    return ((l.goto l.cursor.skip).push .key).allowKey (l.depth == 0)

/-- The colon before a value. -/
def valueMark (l : Lexer) : Option Lexer :=
  let finish (l : Lexer) (allowed : Bool) : Lexer :=
    ((l.goto l.cursor.skip).push .value).allowKey allowed
  match l.candidates with
  | k :: ks =>
    if k.possible then
      let l := (l.insert k.token .key).roll k.column (some k.token) .blockMapping
      some (finish { l with candidates := { k with possible := false } :: ks } false)
    else if l.depth > 0 then some (finish l false)
    else if !l.keyAllowed then none
    else some (finish (l.roll l.cursor.column none .blockMapping) true)
  | [] => none

/-! ### Scalars -/

/-- A block scalar. -/
def blockScalar (l : Lexer) (literal : Bool) : Option Lexer := do
  let l ← l.dropCandidate
  let (text, c) ← Scalar.block literal l.indent l.cursor.skip
  return ((l.goto c).push (.scalar text (if literal then .literal else .folded))).allowKey true

/-- A quoted scalar. -/
def quotedScalar (l : Lexer) (single : Bool) : Option Lexer := do
  let l ← l.saveCandidate
  let (text, c) ← Scalar.quoted single l.cursor
  return ((l.goto c).push (.scalar text .quoted)).allowKey false

/-- A plain scalar. If a line has ended after it, a key may begin. -/
def plainScalar (l : Lexer) : Option Lexer := do
  let l ← l.saveCandidate
  let (text, broken, c) ← Scalar.plain (l.depth > 0) (l.indent.elim 0 (· + 1)) l.cursor
  return ((l.goto c).push (.scalar text .plain)).allowKey broken

/-- Whether a plain scalar may begin with the next character. -/
def beginsPlain (l : Lexer) (x : Char) : Bool :=
  !(isSpace x || "-?:,[]\x7b\x7d#&*!|>'\"%@\x60".toList.contains x) ||
    (x == '-' && !(l.cursor.peek 1).any isBlank) ||
    (l.depth == 0 && (x == '?' || x == ':') && !l.cursor.endsWord 1)

/-- The token that begins with a character. -/
def one (l : Lexer) (x : Char) : Option Lexer :=
  let c := l.cursor
  let inFlow := l.depth > 0
  if c.column == 0 && x == '%' then l.directive
  else if c.atDocumentMark then l.documentMark (if x == '-' then .documentStart else .documentEnd)
  else if x == '[' then l.openFlow .flowSequence
  else if x == '\x7b' then l.openFlow .flowMapping
  else if x == ']' then l.closeFlow .flowSequenceEnd
  else if x == '\x7d' then l.closeFlow .flowMappingEnd
  else if x == ',' then l.flowEntry
  else if x == '-' && c.endsWord 1 then l.blockEntry
  else if x == '?' && (inFlow || c.endsWord 1) then l.keyMark
  else if x == ':' && (inFlow || c.endsWord 1) then l.valueMark
  else if x == '*' then l.named .reference
  else if x == '&' then l.named .anchor
  else if x == '!' then l.tagged
  else if x == '|' && !inFlow then l.blockScalar true
  else if x == '>' && !inFlow then l.blockScalar false
  else if x == '\'' then l.quotedScalar true
  else if x == '"' then l.quotedScalar false
  else if l.beginsPlain x then l.plainScalar
  else none

/-- Ends the stream. -/
def finish (l : Lexer) : Option (List Token) := do
  let l ← (l.unroll none).dropCandidate
  return l.tokens.toList

/-- Reads all tokens. Every round but the last passes a character. -/
def run (l : Lexer) : Nat → Option (List Token)
  | 0 => none
  | fuel + 1 => do
    let l := l.passSpace (l.cursor.rest.length + 1)
    let l ← l.dropStale
    let l := l.unroll (some l.cursor.column)
    match l.cursor.peek 0 with
    | none => l.finish
    | some x => run (← l.one x) fuel

end Lexer

/-- The tokens of a stream. -/
def ofText? (text : String) : Option (List Token) :=
  let s := text.toList
  if s.all isPrintable then (Lexer.start s).run (s.length + 1) else none

end Token
end Sluice.Yaml
