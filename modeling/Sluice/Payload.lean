import Sluice.Error
import Sluice.Json.Reader
import Sluice.Power
import Sluice.Record
/-!
# From payloads to records

A payload is a JSON object, which makes one record, or a list of objects, which makes one record
each. The settings name the top-level keys that hold the name, the time and the tags; every other
entry is a field.
-/
namespace Sluice.Payload
open Json (Value Object)

/-- Which top-level entries of an object are more than fields (`JsonParserConfig`). -/
structure Layout where
  /-- The name of a record whose own is not given. -/
  name : String
  nameKey : Option String
  tagKeys : List String
  timeKey : Option String
  deriving DecidableEq, Repr

/-- The layout without any special key. -/
def Layout.standard : Layout := ⟨"kafka_consumer", none, [], none⟩

/-- Reads the time of an event: a date in the exact format, or milliseconds since 1970
(`parse_timestamp`). -/
def timestamp : Value → Except String Instant
  | .string s =>
    match Instant.readStrict s.toList with
    | .ok t => .ok t
    | .error e => .error ("invalid timestamp '" ++ s ++ "': " ++ e.message)
  | .number n =>
    let bad := "invalid epoch timestamp " ++ String.ofList n.print
    match n with
    | .whole k =>
      if k < pow2 63 then
        match Instant.ofMillis? k with
        | some t => .ok t
        | none => .error bad
      else .error bad
    | .float .. => .error bad
  | v => .error ("timestamp must be a string or number, found " ++ v.kind)

/-- The value taken for a tag: text as it is, numbers and truth values as they are written, nothing
for null; a list or an object is no tag. -/
def tagText : Value → Except Unit (Option String)
  | .string s => .ok (some s)
  | .number n => .ok (some (String.ofList n.print))
  | .bool b => .ok (some (if b then "true" else "false"))
  | .null => .ok none
  | _ => .error ()

/-- Moves the entry under a key out of an object. -/
def take (key : Option String) (o : Object) : Option Value × Object :=
  match key with
  | none => (none, o)
  | some k => (o.get? k, o.erase k)

/-- Moves the entries under the tag keys to the record's tags, key by key. -/
def takeTags : List String → Record → Object → Except String (Record × Object)
  | [], r, o => .ok (r, o)
  | k :: ks, r, o =>
    match o.get? k with
    | none => takeTags ks r o
    | some v =>
      match tagText v with
      | .error () => .error ("tag key '" ++ k ++ "' holds a non-scalar value: " ++ v.toText)
      | .ok none => takeTags ks r (o.erase k)
      | .ok (some t) => takeTags ks (r.addTag k t) (o.erase k)

/-- The record of one object: the name is taken first, then the time, then the tags
(`record_from_object`). -/
def record (layout : Layout) (o : Object) : Except String Record := do
  let (named, o) := take layout.nameKey o
  let name := match named with
    | some (.string s) => s
    | _ => layout.name
  let (timed, o) := take layout.timeKey o
  let time ← match timed with
    | some v => (timestamp v).map some
    | none => .ok none
  let (r, o) ← takeTags layout.tagKeys { Record.named name with timestamp := time } o
  return { r with fields := o }

/-- The records of a list of values, which all have to be objects. -/
def recordsOf (layout : Layout) : List Value → Except String (List Record)
  | [] => .ok []
  | .object o :: vs => do
    let r ← record layout o
    let rs ← recordsOf layout vs
    return r :: rs
  | v :: _ => .error ("expected JSON object in array, found " ++ v.kind)

/-- The records of a payload's value. -/
def ofValue (layout : Layout) : Value → Except String (List Record)
  | .object o => (record layout o).map fun r => [r]
  | .array vs => recordsOf layout vs
  | v => .error ("expected JSON object or array, found " ++ v.kind)

/-- The records of a payload (`JsonParser.parse`). -/
def parse (layout : Layout) (payload : List UInt8) : Except RelayError (List Record) :=
  match Json.read payload with
  | .error e => .error (.parse ("JSON parse error: " ++ e.message payload))
  | .ok v =>
    match ofValue layout v with
    | .ok rs => .ok rs
    | .error t => .error (.parse t)

end Sluice.Payload
