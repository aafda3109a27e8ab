import Sluice.Calendar
import Sluice.Json.Printer
/-!
# Records

What a payload is turned into: a name, text-valued tags, fields with any JSON value, and possibly
the time of the event. A record is written on one line of JSON.
-/
namespace Sluice

/-- A structured record. Tags and fields are in ascending order of their keys. -/
structure Record where
  name : String
  tags : Keyed String
  fields : Json.Object
  timestamp : Option Instant

namespace Record

/-- A record with a name and nothing else. -/
def named (name : String) : Record := ⟨name, [], [], none⟩

/-- Sets a tag, in place of one of that name (`add_tag`). -/
def addTag (r : Record) (key value : String) : Record :=
  { r with tags := r.tags.insert key value }

/-- Sets a field, in place of one of that name (`add_field`). -/
def addField (r : Record) (key : String) (value : Json.Value) : Record :=
  { r with fields := r.fields.insert key value }

/-- The tags as an object of strings. -/
def tagObject (r : Record) : Json.Object := r.tags.map fun e => (e.1, .string e.2)

/-- The characters of a key of the line and its colon. -/
def lineKey (key : String) : List Char := Json.printString key ++ [':']

/-- The line of a record, without its end. -/
def line (r : Record) : List Char :=
  '\x7b' :: lineKey "name" ++ Json.printString r.name ++
    ',' :: lineKey "tags" ++ (Json.Value.object r.tagObject).print ++
    ',' :: lineKey "fields" ++ (Json.Value.object r.fields).print ++
    (match r.timestamp with
     | none => []
     | some t => ',' :: lineKey "timestamp" ++ '"' :: t.print ++ ['"']) ++ ['\x7d']

/-- The line of a record as text. -/
def lineText (r : Record) : String := String.ofList r.line

end Record
end Sluice
