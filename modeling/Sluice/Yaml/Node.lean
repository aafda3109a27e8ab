import Sluice.Yaml.Token
/-!
# Documents of YAML

The tree of a document: scalars, sequences and mappings. A reference stands for the node with an
anchor; the anchored nodes of a document are numbered in the order in which they begin, so that a
reference can stand within the very node it means.

`Document.ofText?` is the one document of a stream. A stream without a document counts as an empty
scalar.
-/
namespace Sluice.Yaml

/-- A node of a document. -/
inductive Node where
  | scalar (tag : Option String) (style : Style) (text : String)
  | sequence (items : List Node)
  | mapping (entries : List (Node × Node))
  | reference (anchor : Nat)

namespace Node

/-- The node where nothing is written. -/
def empty : Node := .scalar none .plain ""

end Node

/-- A document. -/
structure Document where
  root : Node
  /-- The nodes with anchors, by number. -/
  anchored : List (Nat × Node)

namespace Document

/-- Tokens that are being read. -/
structure Reader where
  tokens : List Token
  /-- What the names of anchors mean here. -/
  names : List (String × Nat)
  anchored : List (Nat × Node)
  /-- How many anchors there have been. -/
  count : Nat
  /-- What the handles of tags stand for. -/
  handles : List (String × String)

/-- Reads something from tokens, or fails. -/
abbrev Parse (α : Type) := StateT Reader Option α

/-- The next token. -/
def peek : Parse (Option Token) := do return (← get).tokens.head?

/-- Passes a token. -/
def skip : Parse Unit := modify fun r => { r with tokens := r.tokens.drop 1 }

/-- Whether one of some tokens is next. -/
def isNext (ts : List Token) : Parse Bool := do return (← peek).any ts.contains

/-! ## Properties of nodes -/

/-- The meaning of a tag. -/
def tagOf (mark suffix : String) : Parse (Option String) := do
  if mark.isEmpty then return some suffix
  else
    match (← get).handles.lookup mark with
    | some meaning => return some (meaning ++ suffix)
    | none => failure

/-- An anchor, if one is next. -/
def anchor? : Parse (Option String) := do
  match ← peek with
  | some (.anchor name) => skip; return some name
  | _ => return none

/-- A tag, if one is next. -/
def tag? : Parse (Option String) := do
  match ← peek with
  | some (.tag mark suffix) => skip; tagOf mark suffix
  | _ => return none

/-- An anchor and a tag, in either order. -/
def properties : Parse (Option String × Option String) := do
  match ← anchor? with
  | some name => return (some name, ← tag?)
  | none =>
    match ← tag? with
    | some t => return (← anchor?, some t)
    | none => return (none, none)

/-- Gives an anchor its number. -/
def define (name : String) : Parse Nat := do
  let r ← get
  set { r with names := (name, r.count) :: r.names, count := r.count + 1 }
  return r.count

/-- The number of an anchor. -/
def meaning (name : String) : Parse Nat := do
  match (← get).names.lookup name with
  | some n => return n
  | none => failure

/-- Writes down an anchored node. -/
def note (id : Option Nat) (n : Node) : Parse Node := do
  match id with
  | none => return n
  | some i => modify fun r => { r with anchored := (i, n) :: r.anchored }; return n

/-- The tag of a scalar; a bare mark is none. -/
def scalarTag (tag : Option String) : Option String := if tag == some "!" then none else tag

/-! ## Nodes -/

mutual

/-- A node. Within blocks it may be a block, and as part of a mapping a sequence that is not
indented. -/
def node (block unindented : Bool) : Nat → Parse Node
  | 0 => failure
  | fuel + 1 => do
    match ← peek with
    | some (.reference name) => skip; return .reference (← meaning name)
    | _ =>
      let (anchor, tag) ← properties
      let id ← anchor.mapM define
      match ← peek with
      | some (.scalar text style) => skip; note id (.scalar (scalarTag tag) style text)
      | some .flowSequence => skip; note id (.sequence (← flowItems true fuel))
      | some .flowMapping => skip; note id (.mapping (← flowEntries true fuel))
      | some .blockEntry =>
        if unindented then note id (.sequence (← unindentedItems fuel))
        else if anchor.isSome || tag.isSome then note id (.scalar (scalarTag tag) .plain "")
        else failure
      | some .blockSequence =>
        if block then do skip; note id (.sequence (← blockItems fuel))
        else if anchor.isSome || tag.isSome then note id (.scalar (scalarTag tag) .plain "")
        else failure
      | some .blockMapping =>
        if block then do skip; note id (.mapping (← blockEntries fuel))
        else if anchor.isSome || tag.isSome then note id (.scalar (scalarTag tag) .plain "")
        else failure
      | _ =>
        if anchor.isSome || tag.isSome then note id (.scalar (scalarTag tag) .plain "")
        else failure

/-- A node, or the empty one if one of some tokens is next. -/
def nodeUnless (ends : List Token) (block unindented : Bool) : Nat → Parse Node
  | 0 => failure
  | fuel + 1 => do
    if ← isNext ends then return .empty else node block unindented fuel

/-- The entries of a block sequence. -/
def blockItems : Nat → Parse (List Node)
  | 0 => failure
  | fuel + 1 => do
    match ← peek with
    | some .blockEntry =>
      skip
      let x ← nodeUnless [.blockEntry, .blockEnd] true false fuel
      return x :: (← blockItems fuel)
    | some .blockEnd => skip; return []
    | _ => failure

/-- The entries of a sequence that is not indented. -/
def unindentedItems : Nat → Parse (List Node)
  | 0 => failure
  | fuel + 1 => do
    match ← peek with
    | some .blockEntry =>
      skip
      let x ← nodeUnless [.blockEntry, .key, .value, .blockEnd] true false fuel
      return x :: (← unindentedItems fuel)
    | _ => return []

/-- The entries of a block mapping. -/
def blockEntries : Nat → Parse (List (Node × Node))
  | 0 => failure
  | fuel + 1 => do
    match ← peek with
    | some .key =>
      skip
      let ends := [Token.key, .value, .blockEnd]
      let k ← nodeUnless ends true true fuel
      if ← isNext [.value] then
        skip
        let v ← nodeUnless ends true true fuel
        return (k, v) :: (← blockEntries fuel)
      else return (k, .empty) :: (← blockEntries fuel)
    | some .blockEnd => skip; return []
    | _ => failure

/-- The entries of a sequence in brackets. An entry may be a mapping of one key. -/
def flowItems (first : Bool) : Nat → Parse (List Node)
  | 0 => failure
  | fuel + 1 => do
    if ← isNext [.flowSequenceEnd] then skip; return []
    else
      if !first then
        if ← isNext [.flowEntry] then skip else failure
      if ← isNext [.flowSequenceEnd] then skip; return []
      else if ← isNext [.key] then
        skip
        let k ← do
          if ← isNext [.value, .flowEntry, .flowSequenceEnd] then skip; pure .empty
          else node false false fuel
        let v ← do
          if ← isNext [.value] then
            skip
            nodeUnless [.flowEntry, .flowSequenceEnd] false false fuel
          else pure .empty
        return .mapping [(k, v)] :: (← flowItems false fuel)
      else
        let x ← node false false fuel
        return x :: (← flowItems false fuel)

/-- The entries of a mapping in brackets. -/
def flowEntries (first : Bool) : Nat → Parse (List (Node × Node))
  | 0 => failure
  | fuel + 1 => do
    if ← isNext [.flowMappingEnd] then skip; return []
    else
      if !first then
        if ← isNext [.flowEntry] then skip else failure
      if ← isNext [.flowMappingEnd] then skip; return []
      else if ← isNext [.key] then
        skip
        let k ← nodeUnless [.value, .flowEntry, .flowMappingEnd] false false fuel
        let v ← do
          if ← isNext [.value] then
            skip
            nodeUnless [.flowEntry, .flowMappingEnd] false false fuel
          else pure .empty
        return (k, v) :: (← flowEntries false fuel)
      else
        let k ← node false false fuel
        return (k, .empty) :: (← flowEntries false fuel)

end

/-! ## Streams -/

/-- What handles stand for without a directive. -/
def standardHandles : List (String × String) := [("!", "!"), ("!!", "tag:yaml.org,2002:")]

/-- The directives before a document. -/
def directives (version : Bool) (handles : List (String × String)) :
    List Token → Option (List (String × String) × List Token)
  | .version major minor :: ts =>
    if version || major != 1 || (minor != 1 && minor != 2) then none
    else directives true handles ts
  | .handle name meaning :: ts =>
    if (handles.lookup name).isSome then none
    else directives version ((name, meaning) :: handles) ts
  | ts => some (handles ++ standardHandles, ts)

/-- Whether a token can only stand between documents. -/
def isBetween : Token → Bool
  | .version .. | .handle .. | .documentStart | .documentEnd => true
  | _ => false

/-- The content of a document, and the tokens after it. -/
def content (handles : List (String × String)) (ts : List Token) : Option (Document × List Token) := do
  let r : Reader := ⟨ts, [], [], 0, handles⟩
  let (root, r) ← node true false (8 * ts.length + 16) r
  return (⟨root, r.anchored⟩, r.tokens)

/-- The first document, and the tokens after it. -/
def first (ts : List Token) : Option (Document × List Token) :=
  match ts with
  | [] => some (⟨.empty, []⟩, [])
  | .version .. :: _ | .handle .. :: _ | .documentStart :: _ => do
    let (handles, ts) ← directives false [] ts
    match ts with
    | .documentStart :: ts =>
      if ts.head?.all isBetween then return (⟨.empty, []⟩, ts) else content handles ts
    | _ => none
  | ts => content standardHandles ts

/-- The one document of a list of tokens. Marks for the end of a document may follow it. -/
def ofTokens? (ts : List Token) : Option Document := do
  let (d, ts) ← first ts
  if ts.all (· == .documentEnd) then return d else none

/-- The one document of a stream. -/
def ofText? (text : String) : Option Document := (Token.ofText? text).bind ofTokens?

end Document
end Sluice.Yaml
