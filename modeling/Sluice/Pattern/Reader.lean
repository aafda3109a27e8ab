import Sluice.Pattern.ClassName
import Sluice.Pattern.Node
import Sluice.Text.Blank
/-!
# Reading patterns

A reader of regular expressions in the usual notation: groups, alternation, repetition, classes with
set operations, flags, Unicode classes; neither look-around nor back references. It only says
whether a text is a pattern, and which: a fault has no text of its own.

The reader serves the command alone. What is proved of the check of the settings and of the relay
holds for every `Pattern.Library`, and nothing is proved of this one.

Flags hold from where they are set to the end of their group. With the flag `u` off, classes and
escapes stand for bytes, and what could match a part of a character is refused.
-/
namespace Sluice.Pattern

/-- The flags of a place in a pattern. Greed does not matter to whether a text matches, but it can
be set like the others. -/
structure Flags where
  ignoreCase : Bool
  multiLine : Bool
  dotAll : Bool
  unicode : Bool
  crlf : Bool
  ignoreSpace : Bool
  deriving DecidableEq, Repr

/-- The flags a pattern starts with. -/
def Flags.standard : Flags := ⟨false, false, false, true, false, false⟩

/-- The state of the reader. -/
structure Reader where
  rest : List Char
  flags : Flags
  names : List (List Char)

/-- A reading: `none` when the text is no pattern. -/
abbrev Read := StateT Reader Option

namespace Read

/-- The text is no pattern. -/
def refuse {α : Type} : Read α := fun _ => none

/-- The next character, which has to exist. -/
def peek : Read Char := fun r => match r.rest with | [] => none | c :: _ => some (c, r)

/-- The characters left. -/
def rest : Read (List Char) := fun r => some (r.rest, r)

/-- Whether nothing is left. -/
def atEnd : Read Bool := fun r => some (r.rest.isEmpty, r)

/-- Past one character. -/
def bump : Read Unit := fun r => some ((), { r with rest := r.rest.drop 1 })

/-- The flags in force. -/
def flags : Read Flags := fun r => some (r.flags, r)

/-- Sets the flags. -/
def setFlags (f : Flags) : Read Unit := fun r => some ((), { r with flags := f })

/-- Goes to a place further on. -/
def goto (cs : List Char) : Read Unit := fun r => some ((), { r with rest := cs })

/-- Past a piece of text, if it comes next. -/
def take? (s : List Char) : Read Bool := fun r =>
  if s.isPrefixOf r.rest then some (true, { r with rest := r.rest.drop s.length })
  else some (false, r)

end Read

open Read

/-- Drops white space and comments. -/
def dropSpace : Nat → List Char → List Char
  | 0, cs => cs
  | _, [] => []
  | fuel + 1, c :: cs =>
    if Text.isBlank c then dropSpace fuel cs
    else if c == '#' then dropSpace fuel ((cs.dropWhile (· != '\n')).drop 1)
    else c :: cs

/-- Past white space and comments, where those do not count. -/
def skipSpace : Read Unit := do
  if (← flags).ignoreSpace then
    let cs ← rest
    goto (dropSpace (cs.length + 1) cs)

/-- Past one character and the space behind it. Whether anything is left. -/
def advance : Read Bool := do
  bump
  skipSpace
  return !(← atEnd)

/-- Past one character and the space behind it; something has to be left. -/
def mustAdvance : Read Unit := do
  if !(← advance) then refuse

/-! ## Escapes -/

/-- What an escape or a plain character stands for. -/
inductive Atom where
  /-- A character; `byte` when it was written as a byte in base sixteen. -/
  | literal (c : Char) (byte : Bool)
  | look (l : Look)
  /-- A class whose set is final. -/
  | set (s : CharSet)

/-- The characters that have a meaning of their own. -/
def isMeta (c : Char) : Bool := "\\.+*?()|[]\x7b\x7d^$#&-~".toList.contains c

/-- The characters that may stand behind a backslash for themselves. -/
def isEscapable (c : Char) : Bool :=
  isMeta c || (c.toNat < 128 && !c.isAlphanum && c != '<' && c != '>')

/-- The value of a digit of base sixteen. -/
def hexValue? (c : Char) : Option Nat :=
  if c.isDigit then some (c.toNat - 48)
  else if 'a' ≤ c && c ≤ 'f' then some (c.toNat - 87)
  else if 'A' ≤ c && c ≤ 'F' then some (c.toNat - 55)
  else none

/-- The character of a number that stands for one. -/
def scalar? (n : Nat) : Option Char := if n.isValidChar then some (Char.ofNat n) else none

/-- A given number of digits of base sixteen; the reader stands at the first. -/
def hexDigits (value : Nat) : Nat → Read Nat
  | 0 => return value
  | left + 1 => do
    match hexValue? (← peek) with
    | none => refuse
    | some d =>
      let more ← advance
      if left != 0 && !more then refuse
      else hexDigits (value * 16 + d) left

/-- Digits of base sixteen up to a closing brace; the reader stands behind the opening one. -/
def hexBraced (value count : Nat) : Nat → Read Nat
  | 0 => refuse
  | fuel + 1 => do
    let c ← peek
    if c == '\x7d' then
      if count == 0 then refuse
      let _ ← advance
      return value
    else
      match hexValue? c with
      | none => refuse
      | some d =>
        let _ ← advance
        hexBraced (value * 16 + d) (count + 1) fuel

/-- A character by its number, from the letter behind the backslash on. -/
def hexEscape (width : Nat) : Read Atom := do
  mustAdvance
  let braced := (← peek) == '\x7b'
  let n ← if braced then do
      let _ ← advance
      hexBraced 0 0 ((← rest).length + 1)
    else hexDigits 0 width
  match scalar? n with
  | some c => return .literal c (width == 2 && !braced && 128 ≤ n)
  | none => refuse

/-- The letters up to a closing brace; the reader stands behind the opening one. -/
def bracedName (name : List Char) : Nat → Read (List Char)
  | 0 => refuse
  | fuel + 1 => do
    let c ← peek
    if c == '\x7d' then
      bump
      return name.reverse
    else
      let _ ← advance
      bracedName (c :: name) fuel

/-- Splits a text at the first place where `mark` stands. -/
def splitAt? (mark : List Char) : List Char → Option (List Char × List Char)
  | [] => none
  | c :: cs =>
    if mark.isPrefixOf (c :: cs) then some ([], (c :: cs).drop mark.length)
    else (splitAt? mark cs).map fun p => (c :: p.1, p.2)

/-- The set of a class name inside braces, and whether it is excluded. -/
def namedClass? (name : List Char) : Option (CharSet × Bool) :=
  match splitAt? ['!', '='] name with
  | some (n, v) => (ClassName.withValue? n v).map fun s => (s, true)
  | none =>
    match splitAt? [':'] name with
    | some (n, v) => (ClassName.withValue? n v).map fun s => (s, false)
    | none =>
      match splitAt? ['='] name with
      | some (n, v) => (ClassName.withValue? n v).map fun s => (s, false)
      | none => (ClassName.alone? name).map fun s => (s, false)

/-- A class of `\p` or `\P`, from that letter on. -/
def propertyEscape : Read Atom := do
  let negated := (← peek) == 'P'
  mustAdvance
  let c ← peek
  let found ← if c == '\x7b' then do
      let _ ← advance
      let name ← bracedName [] ((← rest).length + 1)
      pure (namedClass? name)
    else do
      if c == '\\' then refuse
      let _ ← advance
      pure ((ClassName.alone? [c]).map fun s => (s, false))
  let f ← flags
  match found with
  | none => refuse
  | some (s, excluded) =>
    if !f.unicode then refuse
    let s := if f.ignoreCase then s.fold else s
    return .set (if negated != excluded then s.complement else s)

/-- A class of one letter, such as `\d` or `\D`. -/
def letterEscape (c : Char) : Read Atom := do
  bump
  let f ← flags
  let base := match c.toLower with
    | 'd' => if f.unicode then ClassName.digit else ClassName.asciiDigit
    | 's' => if f.unicode then ClassName.space else ClassName.asciiSpace
    | _ => if f.unicode then ClassName.wordSet else ClassName.asciiWord
  if c.isUpper then
    if !f.unicode then refuse
    return .set base.complement
  else return .set base

/-- The name of a special word boundary and its closing brace, if that is what follows `\b`. -/
def boundaryName (name : List Char) : Nat → Read (List Char)
  | 0 => refuse
  | fuel + 1 => do
    let c ← peek
    if c.isAlpha || c == '-' then
      let _ ← advance
      boundaryName (c :: name) fuel
    else if c == '\x7d' then
      bump
      return name.reverse
    else refuse

/-- The boundary that begins with `\b`, from behind the letter. -/
def boundary (ascii : Bool) : Read Atom := do
  let here ← rest
  match here with
  | '\x7b' :: _ =>
    mustAdvance
    let c ← peek
    if c.isAlpha || c == '-' then
      let name ← boundaryName [] ((← rest).length + 1)
      match String.ofList name with
      | "start" => return .look (.wordStart ascii)
      | "end" => return .look (.wordStop ascii)
      | "start-half" => return .look (.wordStartHalf ascii)
      | "end-half" => return .look (.wordStopHalf ascii)
      | _ => refuse
    else
      goto here
      return .look (.wordEdge ascii)
  | _ => return .look (.wordEdge ascii)

/-- An escape, from its backslash on. -/
def escape : Read Atom := do
  bump
  let c ← peek
  let ascii := !(← flags).unicode
  match c with
  | 'x' => hexEscape 2
  | 'u' => hexEscape 4
  | 'U' => hexEscape 8
  | 'p' | 'P' => propertyEscape
  | 'd' | 's' | 'w' | 'D' | 'S' | 'W' => letterEscape c
  | c =>
    bump
    if isEscapable c then return .literal c false
    else match c with
      | 'a' => return .literal '\x07' false
      | 'f' => return .literal '\x0c' false
      | 't' => return .literal '\t' false
      | 'n' => return .literal '\n' false
      | 'r' => return .literal '\r' false
      | 'v' => return .literal '\x0b' false
      | 'A' => return .look .start
      | 'z' => return .look .stop
      | 'b' => boundary ascii
      | 'B' => return .look (.noWordEdge ascii)
      | '<' => return .look (.wordStart ascii)
      | '>' => return .look (.wordStop ascii)
      | _ => refuse

/-! ## Classes in brackets -/

/-- An item of a class: its set, and how deep it is nested. -/
structure Item where
  set : CharSet
  depth : Nat

/-- The union of the items read, first to last. -/
def unite (items : List Item) : Item :=
  match items with
  | [] => ⟨[], 0⟩
  | [i] => i
  | items => ⟨CharSet.ofRanges (items.flatMap Item.set), (items.map Item.depth).foldl max 0 + 1⟩

/-- The operations on classes. -/
inductive SetOp where
  | inter
  | diff
  | symmDiff

/-- A set with what differs in case only, where case does not count. -/
def folded (f : Flags) (s : CharSet) : CharSet :=
  if !f.ignoreCase then s else if f.unicode then s.fold else s.foldAscii

/-- A set, or what does not belong to it. Bytes cannot be excluded. -/
def negatedIf (negated : Bool) (s : CharSet) : Read CharSet := do
  if !negated then return s
  else if (← flags).unicode then return s.complement
  else refuse

/-- Applies an operation that waits for its second class. -/
def applyOp (f : Flags) (pending : Option (Item × SetOp)) (r : Item) : Item :=
  match pending with
  | none => r
  | some (l, op) =>
    let a := folded f l.set
    let b := folded f r.set
    let s := match op with
      | .inter => a.inter b
      | .diff => a.diff b
      | .symmDiff => a.symmDiff b
    ⟨s, max l.depth r.depth + 1⟩

/-- The name and the rest of a bracketed ASCII class, if one comes next. -/
def asciiClass? (cs : List Char) : Option (CharSet × Bool × List Char) :=
  match cs with
  | '[' :: ':' :: cs =>
    let (negated, cs) := match cs with
      | '^' :: cs => (true, cs)
      | cs => (false, cs)
    match cs.dropWhile (· != ':') with
    | ':' :: ']' :: after =>
      (ClassName.ascii? (String.ofList (cs.takeWhile (· != ':')))).map fun s => (s, negated, after)
    | _ => none
  | _ => none

/-- One member of a class: a character or an escape. -/
def member : Read Atom := do
  let c ← peek
  if c == '\\' then escape
  else
    bump
    return .literal c false

/-- A character that may stand in a class: with `u` off it has to be ASCII. -/
def memberChar (c : Char) : Read Char := do
  if (← flags).unicode || c.toNat < 128 then return c else refuse

/-- The character behind the next one, and behind the space there. -/
def peekBehind : Read (Option Char) := do
  let f ← flags
  let cs := (← rest).drop 1
  return (if f.ignoreSpace then dropSpace (cs.length + 1) cs else cs).head?

/-- A member of a class, or a range of characters. -/
def memberOrRange : Read Item := do
  let a ← member
  skipSpace
  let next ← peek
  let behind ← peekBehind
  if next != '-' || behind == some ']' || behind == some '-' then
    match a with
    | .literal c _ => return ⟨CharSet.single (← memberChar c), 0⟩
    | .set s => return ⟨s, 0⟩
    | .look _ => refuse
  else
    mustAdvance
    let b ← member
    match a, b with
    | .literal a _, .literal b _ =>
      let a ← memberChar a
      let b ← memberChar b
      if a ≤ b then return ⟨[(a.toNat, b.toNat)], 0⟩ else refuse
    | _, _ => refuse

/-- The hyphens at the front of a class. -/
def leadingHyphens (items : List Item) : Nat → Read (List Item)
  | 0 => refuse
  | fuel + 1 => do
    if (← peek) == '-' then
      mustAdvance
      leadingHyphens (⟨CharSet.single '-', 0⟩ :: items) fuel
    else return items

mutual

/-- A class, from its opening bracket on. -/
def classOpen (fuel : Nat) : Read Item :=
  match fuel with
  | 0 => refuse
  | fuel + 1 => do
    mustAdvance
    let negated := (← peek) == '^'
    if negated then mustAdvance
    let items ← leadingHyphens [] ((← rest).length + 1)
    let items ← if items.isEmpty && (← peek) == ']' then do
        mustAdvance
        pure [⟨CharSet.single ']', 0⟩]
      else pure items
    let i ← classBody fuel none items
    let s ← negatedIf negated (folded (← flags) i.set)
    return ⟨s, i.depth + 1⟩

/-- The rest of a class. `items` holds what has been read since the last operation, last first. -/
def classBody (fuel : Nat) (pending : Option (Item × SetOp)) (items : List Item) : Read Item :=
  match fuel with
  | 0 => refuse
  | fuel + 1 => do
    skipSpace
    let cs ← rest
    let f ← flags
    let op (o : SetOp) : Read Item := do
      goto (cs.drop 2)
      classBody fuel (some (applyOp f pending (unite items.reverse), o)) []
    match cs with
    | [] => refuse
    | '[' :: _ =>
      match asciiClass? cs with
      | some (s, negated, after) =>
        goto after
        let s ← negatedIf negated (folded f s)
        classBody fuel pending (⟨s, 0⟩ :: items)
      | none =>
        let i ← classOpen fuel
        classBody fuel pending (i :: items)
    | ']' :: _ =>
      bump
      return applyOp f pending (unite items.reverse)
    | '&' :: '&' :: _ => op .inter
    | '-' :: '-' :: _ => op .diff
    | '~' :: '~' :: _ => op .symmDiff
    | _ =>
      let i ← memberOrRange
      classBody fuel pending (i :: items)

end

/-! ## Groups and repetition -/

/-- Whether a character may stand in the name of a group. -/
def isNameChar (first : Bool) (c : Char) : Bool :=
  let n := c.toNat
  let alphabetic := c.isAlpha ||
    (128 ≤ n && Unicode.within (ClassName.entry Unicode.properties "alphabetic") n)
  c == '_' || alphabetic ||
    (!first && (c == '.' || c == '[' || c == ']' || c.isDigit ||
      (128 ≤ n && Unicode.within (ClassName.entry Unicode.categories "n") n)))

/-- The name of a group up to its closing bracket. No two groups have one name. -/
def groupName (name : List Char) : Nat → Read Unit
  | 0 => refuse
  | fuel + 1 => do
    let c ← peek
    if c == '>' then
      bump
      let r ← get
      if name.isEmpty || r.names.contains name then refuse
      set { r with names := name :: r.names }
    else if isNameChar name.isEmpty c then
      bump
      groupName (c :: name) fuel
    else refuse

/-- One flag switched on or off. -/
def Flags.set? (f : Flags) (c : Char) (on : Bool) : Option Flags :=
  match c with
  | 'i' => some { f with ignoreCase := on }
  | 'm' => some { f with multiLine := on }
  | 's' => some { f with dotAll := on }
  | 'U' => some f
  | 'u' => some { f with unicode := on }
  | 'R' => some { f with crlf := on }
  | 'x' => some { f with ignoreSpace := on }
  | _ => none

/-- The flags up to a colon or a closing bracket, each at most once, and at most one minus sign
which is not the last. `seen` holds what has been read, last first. -/
def flagList (f : Flags) (seen : List Char) : Nat → Read (Flags × List Char)
  | 0 => refuse
  | fuel + 1 => do
    let c ← peek
    if c == ':' || c == ')' then
      if seen.head? == some '-' then refuse
      return (f, seen)
    else if seen.contains c then refuse
    else if c == '-' then
      bump
      flagList f (c :: seen) fuel
    else
      match f.set? c (!seen.contains '-') with
      | none => refuse
      | some f =>
        bump
        flagList f (c :: seen) fuel

/-- A number in base ten of 32 bits, with white space around it. -/
def decimal : Read Nat := do
  goto ((← rest).dropWhile Text.isBlank)
  let rec digits (value : Nat) (count : Nat) : Nat → Read Nat
    | 0 => refuse
    | fuel + 1 => do
      match (← rest).head? with
      | some c =>
        if c.isDigit then
          let _ ← advance
          digits (value * 10 + (c.toNat - 48)) (count + 1) fuel
        else if count == 0 then refuse else return value
      | none => if count == 0 then refuse else return value
  let n ← digits 0 0 ((← rest).length + 1)
  goto (Text.trimLeft (← rest))
  skipSpace
  if n < pow2 32 then return n else refuse

/-- A question mark that makes a repetition reluctant. -/
def reluctance : Read Unit := do
  let _ ← take? ['?']

/-- The bounds of a counted repetition, from its opening brace on. -/
def bounds : Read (Nat × Option Nat) := do
  mustAdvance
  if (← peek) == ',' then refuse
  let lo ← decimal
  let hi ← if (← peek) == ',' then do
      mustAdvance
      if (← peek) == '\x7d' then pure none
      else do
        let n ← decimal
        pure (some n)
    else pure (some lo)
  if (← peek) != '\x7d' then refuse
  let _ ← advance
  reluctance
  match hi with
  | some n => if n < lo then refuse else return (lo, hi)
  | none => return (lo, hi)

/-- A part of a pattern: what it matches and how deep it is nested. `bare` marks what cannot be
repeated: flags that are set by themselves. -/
structure Part where
  node : Node
  depth : Nat
  bare : Bool := false

/-- Parts one after the other, given last first. -/
def sequence (parts : List Part) : Part :=
  match parts with
  | [] => ⟨.empty, 0, false⟩
  | [p] => p
  | parts =>
    ⟨parts.foldl (fun n p => if n matches .empty then p.node else .seq p.node n) .empty,
      (parts.map Part.depth).foldl max 0 + 1, false⟩

/-- Parts of which any may match, given last first. -/
def alternatives (parts : List Part) : Part :=
  match parts with
  | [] => ⟨.empty, 0, false⟩
  | [p] => p
  | p :: ps =>
    ⟨ps.foldl (fun n q => .alt q.node n) p.node, ((p :: ps).map Part.depth).foldl max 0 + 1, false⟩

/-- Repeats the last part, which has to exist. -/
def repeatLast (lo : Nat) (hi : Option Nat) (parts : List Part) : Read (List Part) :=
  match parts with
  | [] => refuse
  | p :: ps => if p.bare then refuse else return ⟨Node.repeated lo hi p.node, p.depth + 1, false⟩ :: ps

/-- The condition of `^`. -/
def Flags.atStart (f : Flags) : Look :=
  if f.multiLine then (if f.crlf then .crlfStart else .lineStart) else .start

/-- The condition of `$`. -/
def Flags.atStop (f : Flags) : Look :=
  if f.multiLine then (if f.crlf then .crlfStop else .lineStop) else .stop

/-- The characters that a dot matches. -/
def Flags.dot (f : Flags) : CharSet :=
  if f.dotAll then [(0, Unicode.last)]
  else if f.crlf then [(0, 9), (11, 12), (14, Unicode.last)]
  else [(0, 9), (11, Unicode.last)]

/-- A character of its own. A byte above 127 is no character. -/
def literalNode (c : Char) (byte : Bool) : Read Node := do
  let f ← flags
  if byte && !f.unicode then refuse
  return .chars (folded f (CharSet.single c))

/-- A character, a dot, a condition or an escape. -/
def primitive : Read Part := do
  let f ← flags
  match ← peek with
  | '\\' =>
    match ← escape with
    | .literal c byte => return ⟨← literalNode c byte, 0, false⟩
    | .look l => return ⟨.look l, 0, false⟩
    | .set s => return ⟨.chars s, 0, false⟩
  | '.' =>
    bump
    if !f.unicode then refuse
    return ⟨.chars f.dot, 0, false⟩
  | '^' =>
    bump
    return ⟨.look f.atStart, 0, false⟩
  | '$' =>
    bump
    return ⟨.look f.atStop, 0, false⟩
  | c =>
    bump
    return ⟨← literalNode c false, 0, false⟩

mutual

/-- A group, from its opening bracket on. Flags by themselves change the rest of the group around
them. -/
def group (fuel : Nat) : Read Part :=
  match fuel with
  | 0 => refuse
  | fuel + 1 => do
    bump
    skipSpace
    for mark in [['?', '='], ['?', '!'], ['?', '<', '='], ['?', '<', '!']] do
      if (mark.isPrefixOf (← rest)) then refuse
    let outer ← flags
    let body : Read Part := do
      let p ← alternation fuel [] []
      let _ ← peek
      bump
      setFlags outer
      return ⟨p.node, p.depth + 1, false⟩
    if ← take? ['?', 'P', '<'] then
      groupName [] ((← rest).length + 1)
      body
    else if ← take? ['?', '<'] then
      groupName [] ((← rest).length + 1)
      body
    else if ← take? ['?'] then
      let (f, seen) ← flagList outer [] ((← rest).length + 1)
      let mark ← peek
      bump
      setFlags f
      if mark == ')' then
        if seen.isEmpty then refuse
        return ⟨.empty, 0, true⟩
      else body
    else body

/-- The rest of a group or of the whole pattern, up to its closing bracket or the end. `done` holds
the finished alternatives and `parts` the parts of the one being read, both last first. -/
def alternation (fuel : Nat) (done parts : List Part) : Read Part :=
  match fuel with
  | 0 => refuse
  | fuel + 1 => do
    skipSpace
    match (← rest).head? with
    | none => return alternatives (sequence parts :: done)
    | some ')' => return alternatives (sequence parts :: done)
    | some '|' =>
      bump
      alternation fuel (sequence parts :: done) []
    | some '(' =>
      let p ← group fuel
      alternation fuel done (p :: parts)
    | some '[' =>
      let i ← classOpen fuel
      alternation fuel done (⟨.chars i.set, i.depth, false⟩ :: parts)
    | some '?' =>
      bump
      reluctance
      alternation fuel done (← repeatLast 0 (some 1) parts)
    | some '*' =>
      bump
      reluctance
      alternation fuel done (← repeatLast 0 none parts)
    | some '+' =>
      bump
      reluctance
      alternation fuel done (← repeatLast 1 none parts)
    | some '\x7b' =>
      match parts with
      | [] => refuse
      | _ =>
        let (lo, hi) ← bounds
        alternation fuel done (← repeatLast lo hi parts)
    | some _ =>
      let p ← primitive
      alternation fuel done (p :: parts)

end

/-- How deep a pattern may be nested. -/
def depthLimit : Nat := 250

/-- Reads a whole pattern. -/
def parseNode? (source : List Char) : Option Node :=
  match alternation (2 * source.length + 2) [] [] ⟨source, .standard, []⟩ with
  | some (p, r) =>
    if r.rest.isEmpty && p.depth ≤ depthLimit && p.node.weight ≤ weightLimit then some p.node else none
  | none => none

end Sluice.Pattern
