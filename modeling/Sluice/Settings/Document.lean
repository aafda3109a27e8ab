import Sluice.Power
import Sluice.Settings.Draft
import Sluice.Yaml.Node
/-!
# Settings documents

A draft written as a YAML mapping. Keys that mean nothing here are passed over; a key that does must
come at most once. Any scalar is text; a number has to be written plainly. Nothing at all may stand
for an empty list or mapping, and for an absent text also one of the words for null.
-/
namespace Sluice.Settings

open Yaml (Node Style)

/-- Reads something from a node, or fails. -/
abbrev Field (α : Type) := Node → Option α

namespace Field

/-- The words for nothing. -/
def nullWords : List String := ["null", "Null", "NULL", "~"]

/-- The tag of null, and the tag of whole numbers. -/
def nullTag : String := "tag:yaml.org,2002:null"

/-- The tag of whole numbers. -/
def intTag : String := "tag:yaml.org,2002:int"

/-- A text. -/
def text : Field String
  | .scalar _ _ t => some t
  | _ => none

/-- A text, or none. -/
def optionalText : Field (Option String)
  | .scalar tag style t =>
    if style ≠ .plain then some (some t)
    else
      match tag with
      | none => some (if t.isEmpty || nullWords.contains t then none else some t)
      | some tag =>
        if tag = nullTag then (if nullWords.contains t then some none else none) else some (some t)
  | _ => none

/-- The value of a digit. -/
def digitValue? (base : Nat) (c : Char) : Option Nat :=
  let v? := if c.isDigit then some (c.toNat - '0'.toNat)
    else if 'a' ≤ c && c ≤ 'f' then some (c.toNat - 'a'.toNat + 10)
    else if 'A' ≤ c && c ≤ 'F' then some (c.toNat - 'A'.toNat + 10)
    else none
  v?.filter (· < base)

/-- The number that digits spell, with a plus sign in front or not, if it fits in 64 bits. -/
def digits? (base : Nat) (s : List Char) : Option Nat :=
  let s := match s with
    | '+' :: rest => rest
    | s => s
  if s.isEmpty then none
  else
    let add (n : Option Nat) (c : Char) : Option Nat := do return (← n) * base + (← digitValue? base c)
    (s.foldl add (some 0)).filter (· < pow2 64)

/-- Whether decimal digits begin with a nought that does not belong there. -/
def isPadded : List Char → Bool
  | '0' :: c :: rest => (c :: rest).all Char.isDigit
  | _ => false

/-- The number that is written by a text. -/
def number? (s : List Char) : Option Nat :=
  let s := match s with
    | '+' :: rest => rest
    | s => s
  let signed (s : List Char) : Bool := s.head?.any fun c => c == '+' || c == '-'
  let based (base : Nat) (rest : List Char) : Option Nat :=
    if signed rest then none else digits? base rest
  match s with
  | '0' :: 'x' :: rest => based 16 rest
  | '0' :: 'o' :: rest => based 8 rest
  | '0' :: 'b' :: rest => based 2 rest
  | s => if signed s || isPadded s then none else digits? 10 s

/-- A number that is not negative. -/
def nat : Field Nat
  | .scalar tag style t =>
    if style = .plain || (style = .literal && tag == some intTag) then number? t.toList else none
  | _ => none

/-- A list of texts. -/
def texts : Field (List String)
  | .sequence items => items.mapM text
  | .scalar _ .plain "" => some []
  | _ => none

end Field

/-- The entries of a mapping with text keys, in order. -/
abbrev Entries := List (String × Node)

namespace Entries

/-- What a reference stands for. -/
def resolve (d : Yaml.Document) : Node → Node
  | .reference i => (d.anchored.lookup i).getD .empty
  | n => n

/-- A node whose parts are no references. -/
def resolveParts (d : Yaml.Document) (n : Node) : Node :=
  match resolve d n with
  | .sequence items => .sequence (items.map (resolve d))
  | .mapping entries => .mapping (entries.map fun e => (resolve d e.1, resolve d e.2))
  | n => n

/-- The entries of a mapping. -/
def ofNode? (d : Yaml.Document) (n : Node) : Option Entries :=
  match resolveParts d n with
  | .mapping entries => entries.mapM fun (k, v) => do return (← Field.text k, v)
  | .scalar _ .plain "" => some []
  | _ => none

/-- What stands under a key, or else a default. -/
def field {α : Type} (es : Entries) (d : Yaml.Document) (key : String) (read : Field α) (default : α) :
    Option α :=
  match es.filter fun e => e.1 = key with
  | [] => some default
  | [e] => read (resolveParts d e.2)
  | _ => none

end Entries

/-- Properties: a mapping of texts. -/
def propertiesOf (d : Yaml.Document) : Field (Keyed String) := fun n => do
  let es ← Entries.ofNode? d n
  return Keyed.ofList (← es.mapM fun (k, v) => do return (k, ← Field.text v))

/-- How payloads are read: a mapping. -/
def layoutOf (d : Yaml.Document) : Field Payload.Layout := fun n => do
  let es ← Entries.ofNode? d n
  let s := Payload.Layout.standard
  return {
    name := ← es.field d "name" Field.text s.name
    nameKey := ← es.field d "name_key" Field.optionalText s.nameKey
    tagKeys := ← es.field d "tag_keys" Field.texts s.tagKeys
    timeKey := ← es.field d "time_key" Field.optionalText s.timeKey }

/-- The draft that a document writes down. -/
def ofDocument? (d : Yaml.Document) : Option Draft := do
  let es ← Entries.ofNode? d d.root
  let s := Draft.standard
  return {
    brokers := ← es.field d "brokers" Field.texts s.brokers
    group := ← es.field d "consumer_group" Field.text s.group
    topics := ← es.field d "topics" Field.texts s.topics
    topicTag := ← es.field d "topic_tag" Field.optionalText s.topicTag
    maxUndelivered := ← es.field d "max_undelivered_messages" Field.nat s.maxUndelivered
    maxMessageLen := ← es.field d "max_message_len" Field.nat s.maxMessageLen
    maxProcessingTime := ← es.field d "max_processing_time" Field.text s.maxProcessingTime
    offset := ← es.field d "offset" Field.text s.offset
    balance := ← es.field d "balance_strategy" Field.text s.balance
    refreshInterval := ← es.field d "topics_refresh_interval" Field.optionalText s.refreshInterval
    fetchSize := ← es.field d "consumer_fetch_default" Field.nat s.fetchSize
    reconnectDelay := ← es.field d "reconnect_delay" Field.text s.reconnectDelay
    channelSize := ← es.field d "channel_buffer_size" Field.nat s.channelSize
    clientId := ← es.field d "client_id" Field.text s.clientId
    metadataTimeout := ← es.field d "metadata_timeout" Field.text s.metadataTimeout
    properties := ← es.field d "kafka_properties" (propertiesOf d) s.properties
    layout := ← es.field d "parser" (layoutOf d) s.layout }

/-- The draft that a text writes down (`from_yaml`). -/
def read (text : String) : Except RelayError Draft :=
  match (Yaml.Document.ofText? text).bind ofDocument? with
  | some d => .ok d
  | none => .error (.yaml "not a settings document")

end Sluice.Settings
