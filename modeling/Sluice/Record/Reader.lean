import Sluice.Json.Skip
import Sluice.Record
/-!
# Reading a record

A record read back from JSON: an object with the fields `name`, `tags`, `fields` and possibly
`timestamp`, or a list of the four in this order. Unknown fields are skipped. A complaint about the
record as a whole is placed behind the closing bracket, if that comes next.
-/
namespace Sluice.Record
open Json (Cursor Fault Reading skipSpace)

/-- What was found in place of the expected shape, as a fault's text names it. -/
inductive Found where
  | null
  | bool (b : Bool)
  | number (n : Json.Number)
  | string (s : String)
  | sequence
  | map

/-- The text that names what was found. -/
def Found.text : Found → String
  | .null => "null"
  | .bool b => "boolean `" ++ (if b then "true" else "false") ++ "`"
  | .number (.whole n) => "integer `" ++ String.ofList (Json.printInt n) ++ "`"
  | .number n => "floating point `" ++ String.ofList n.print ++ "`"
  | .string s => "string " ++ Text.quoted s
  | .sequence => "sequence"
  | .map => "map"

/-- The fault of something that is not `expected`. A list or an object is not read, anything else
is. -/
def mismatch (expected : String) (c : Cursor) : Fault :=
  let place (f : Found) (c : Cursor) : Fault :=
    c.fault (.shape ("invalid type: " ++ f.text ++ ", expected " ++ expected))
  let word (w : List UInt8) (f : Found) : Fault :=
    match Json.word w (c.skip 1) with
    | .ok c => place f c
    | .error e => e
  let number (negative : Bool) (c : Cursor) : Fault :=
    match Json.number negative c with
    | .ok (n, c) => place (.number n) c
    | .error e => e
  match c.peek with
  | 110 => word [117, 108, 108] .null
  | 116 => word [114, 117, 101] (.bool true)
  | 102 => word [97, 108, 115, 101] (.bool false)
  | 45 => number true (c.skip 1)
  | 34 =>
    match Json.string (c.skip 1) with
    | .ok (s, c) => place (.string s) c
    | .error e => e
  | 91 => place .sequence c
  | 123 => place .map c
  | b => if Json.isDigit b then number false c else c.nextFault .expectedValue

/-- Goes to the next byte, which has to exist. -/
def start (c : Cursor) : Except Fault Cursor :=
  let c := skipSpace c
  if c.rest.isEmpty then .error (c.nextFault .eofValue) else .ok c

/-- A string; `expected` names what it stands for. -/
def readText (expected : String) (c : Cursor) : Reading String :=
  match start c with
  | .error e => .error e
  | .ok c => if c.peek == 34 then Json.string (c.skip 1) else .error (mismatch expected c)

/-- The name. -/
def readName (c : Cursor) : Reading String := readText "a string" c

/-- The rest of an object whose values are strings. -/
def readTagEntries (fuel : Nat) (first : Bool) (done : Keyed String) (c : Cursor) :
    Reading (Keyed String) :=
  match fuel with
  | 0 => .error (c.fault .eofValue)
  | fuel + 1 =>
    match Json.nextKey first c with
    | .error e => .error e
    | .ok (false, c) => .ok (done, c.skip 1)
    | .ok (true, c) =>
      match Json.string (c.skip 1) with
      | .error e => .error e
      | .ok (k, c) =>
        match Json.colon c with
        | .error e => .error e
        | .ok c =>
          match readText "a string" c with
          | .error e => .error e
          | .ok (v, c) => readTagEntries fuel false (Keyed.insert k v done) c

/-- The tags. -/
def readTags (c : Cursor) : Reading (Keyed String) :=
  match start c with
  | .error e => .error e
  | .ok c =>
    if c.peek == 123 then readTagEntries (c.rest.length + 1) true [] (c.skip 1)
    else .error (mismatch "a map" c)

/-- The fields. -/
def readFields (c : Cursor) : Reading Json.Object :=
  match start c with
  | .error e => .error e
  | .ok c =>
    if c.peek == 123 then
      match Json.entries (2 * c.rest.length + 2) (Json.depthLimit - 2) true [] (c.skip 1) with
      | .error e => .error e
      | .ok (.object es, c) => .ok (es, c)
      | .ok (_, c) => .ok ([], c)
    else .error (mismatch "a map" c)

/-- The time, which may be `null`. -/
def readTimestamp (c : Cursor) : Reading (Option Instant) :=
  let c := skipSpace c
  if c.peek == 110 then
    match Json.word [117, 108, 108] (c.skip 1) with
    | .ok c => .ok (none, c)
    | .error e => .error e
  else
    match readText "an RFC 3339 formatted date and time string" c with
    | .error e => .error e
    | .ok (s, c) =>
      match Instant.readRelaxed s.toList with
      | .ok t => .ok (some t, c)
      | .error e => .error (c.fault (.shape e.message))

/-- A fault with a place, or a complaint about the record as a whole. -/
inductive Problem where
  | placed (fault : Fault)
  | whole (text : String) (c : Cursor)

/-- What the fields read so far hold. -/
structure Partial where
  name : Option String
  tags : Option (Keyed String)
  fields : Option Json.Object
  timestamp : Option (Option Instant)

/-- A reading inside a record. -/
abbrev Step (α : Type) := Except Problem (α × Cursor)

/-- A reading whose fault has a place. -/
def placed {α : Type} (r : Except Fault α) : Except Problem α :=
  match r with
  | .ok x => .ok x
  | .error e => .error (.placed e)

/-- The item with this number of a list of four. -/
def item {α : Type} (index : Nat) (read : Cursor → Reading α) (c : Cursor) : Step α :=
  match Json.nextItem (index == 0) c with
  | .error e => .error (.placed e)
  | .ok (false, c) =>
    .error (.whole ("invalid length " ++ toString index ++
      ", expected struct Record with 4 elements") c)
  | .ok (true, c) => placed (read c)

/-- The four items of a list, up to its end. -/
def readItems (c : Cursor) : Except Problem (Record × Cursor) := do
  let (name, c) ← item 0 readName c
  let (tags, c) ← item 1 readTags c
  let (fields, c) ← item 2 readFields c
  let (timestamp, c) ← item 3 readTimestamp c
  return (⟨name, tags, fields, timestamp⟩, c)

/-- The value of a field that may be given once. -/
def field {α : Type} (key : String) (old : Option α) (read : Cursor → Reading α) (c : Cursor) :
    Step α :=
  if old.isSome then .error (.whole ("duplicate field `" ++ key ++ "`") c)
  else
    match Json.colon c with
    | .error e => .error (.placed e)
    | .ok c => placed (read c)

/-- The value of a field that is not known. -/
def skipField (c : Cursor) : Except Problem Cursor :=
  match Json.colon c with
  | .error e => .error (.placed e)
  | .ok c => placed (Json.Skip.value (2 * c.rest.length + 2) [] c)

/-- The fields of an object, up to its end. -/
def readEntries (fuel : Nat) (first : Bool) (p : Partial) (c : Cursor) : Step Partial :=
  match fuel with
  | 0 => .error (.placed (c.fault .eofValue))
  | fuel + 1 =>
    match Json.nextKey first c with
    | .error e => .error (.placed e)
    | .ok (false, c) => .ok (p, c)
    | .ok (true, c) =>
      match Json.string (c.skip 1) with
      | .error e => .error (.placed e)
      | .ok (key, c) =>
        if key = "name" then
          match field key p.name readName c with
          | .error e => .error e
          | .ok (v, c) => readEntries fuel false { p with name := some v } c
        else if key = "tags" then
          match field key p.tags readTags c with
          | .error e => .error e
          | .ok (v, c) => readEntries fuel false { p with tags := some v } c
        else if key = "fields" then
          match field key p.fields readFields c with
          | .error e => .error e
          | .ok (v, c) => readEntries fuel false { p with fields := some v } c
        else if key = "timestamp" then
          match field key p.timestamp readTimestamp c with
          | .error e => .error e
          | .ok (v, c) => readEntries fuel false { p with timestamp := some v } c
        else
          match skipField c with
          | .error e => .error e
          | .ok c => readEntries fuel false p c

/-- The record of the fields read, every one but the time being required. -/
def ofPartial (p : Partial) (c : Cursor) : Except Problem (Record × Cursor) :=
  let missing (key : String) : Problem := .whole ("missing field `" ++ key ++ "`") c
  match p.name, p.tags, p.fields with
  | none, _, _ => .error (missing "name")
  | _, none, _ => .error (missing "tags")
  | _, _, none => .error (missing "fields")
  | some name, some tags, some fields => .ok (⟨name, tags, fields, p.timestamp.getD none⟩, c)

/-- Past the closing bracket of a list, if it comes next; the cursor is where the reader then
stands. -/
def endList (c : Cursor) : Except Fault Unit × Cursor :=
  let c := skipSpace c
  match c.rest with
  | [] => (.error (c.nextFault .eofList), c)
  | b :: _ =>
    if b == 93 then (.ok (), c.skip 1)
    else if b == 44 then
      let c := skipSpace (c.skip 1)
      (.error (c.nextFault (if c.peek == 93 then .trailingComma else .trailingCharacters)), c)
    else (.error (c.nextFault .trailingCharacters), c)

/-- Past the closing brace of an object, if it comes next. -/
def endObject (c : Cursor) : Except Fault Unit × Cursor :=
  let c := skipSpace c
  match c.rest with
  | [] => (.error (c.nextFault .eofObject), c)
  | b :: _ =>
    if b == 125 then (.ok (), c.skip 1)
    else if b == 44 then (.error (c.nextFault .trailingComma), c)
    else (.error (c.nextFault .trailingCharacters), c)

/-- Closes what `r` read; a complaint about the whole is placed where the reader stands then. -/
def close (ending : Cursor → Except Fault Unit × Cursor)
    (r : Except Problem (Record × Cursor)) : Reading Record :=
  match r with
  | .error (.placed e) => .error e
  | .error (.whole text c) => .error ((ending c).2.fault (.shape text))
  | .ok (x, c) =>
    match ending c with
    | (.ok (), c) => .ok (x, c)
    | (.error e, _) => .error e

/-- A record. -/
def readRecord (c : Cursor) : Reading Record :=
  match start c with
  | .error e => .error e
  | .ok c =>
    if c.peek == 91 then close endList (readItems (c.skip 1))
    else if c.peek == 123 then
      close endObject (do
        let (p, c) ← readEntries (c.rest.length + 1) true ⟨none, none, none, none⟩ (c.skip 1)
        ofPartial p c)
    else .error (mismatch "struct Record" c)

/-- Reads a text that holds one record. -/
def read (text : List UInt8) : Except Fault Record := do
  let (r, c) ← readRecord (.start text)
  Json.ended c
  return r

end Sluice.Record
