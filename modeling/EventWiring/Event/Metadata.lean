import EventWiring.Event.Uuid
import EventWiring.Event.Timestamp
import EventWiring.Json.Decode

/-! Event metadata: who an event is, when it was made, which events it belongs
to, and free entries of any JSON shape. -/
namespace EventWiring

/-- What an event may carry about itself. -/
structure Metadata where
  id : Uuid
  name : String
  timestamp : Timestamp
  correlation : Option Uuid
  causation : Option Uuid
  custom : Json
deriving Repr

namespace Metadata

/-- Metadata of a new event, with no relations and no entries. -/
def new (id : Uuid) (timestamp : Timestamp) (name : String) : Metadata :=
  ⟨id, name, timestamp, none, none, .object []⟩

/-- Sets the correlation identifier. -/
def withCorrelation (m : Metadata) (u : Uuid) : Metadata :=
  { m with correlation := some u }

/-- Sets the causation identifier. -/
def withCausation (m : Metadata) (u : Uuid) : Metadata :=
  { m with causation := some u }

/-- Attaches an entry. Custom metadata that is no object takes no entries. -/
def withEntry (m : Metadata) (key : String) (value : Json) : Metadata :=
  match m.custom with
  | .object entries => { m with custom := .object (Json.put key value entries) }
  | _ => m

/-! ### Decoding -/

/-- The decoded value of one field. -/
inductive Field where
  | id (u : Uuid)
  | name (s : String)
  | timestamp (t : Timestamp)
  | relation (u : Option Uuid)
  | custom (v : Json)

/-- An identifier from its text. -/
def decodeUuid (r : Json.Reading) : Except Json.DecodeError Uuid := do
  let s ← Json.decodeString "a formatted UUID string" r
  match Uuid.parse? s with
  | some u => .ok u
  | none => .error .invalidText

/-- A point in time from its text. -/
def decodeTimestamp (r : Json.Reading) : Except Json.DecodeError Timestamp := do
  let s ← Json.decodeString "an RFC 3339 formatted date and time string" r
  match Timestamp.parse? s with
  | some t => .ok t
  | none => .error .invalidText

/-- The value of a field by its name. -/
def decodeField (name : String) (r : Json.Reading) : Except Json.DecodeError Field :=
  if name = "id" then (decodeUuid r).map .id
  else if name = "name" then (Json.decodeString "a string" r).map .name
  else if name = "timestamp" then (decodeTimestamp r).map .timestamp
  else if name = "metadata" then (Json.decodeAny (Json.maxDepth - 1) r).map .custom
  else (Json.decodeOptional decodeUuid r).map .relation

/-- The record type of metadata. -/
def recordType : Json.RecordType Field :=
  { name := "EventMetadata"
    fields := ["id", "name", "timestamp", "correlation_id", "causation_id", "metadata"]
    decode := decodeField
    lenient := false }

/-- A relation that never came is none. -/
def relationIn (name : String) (fields : List (String × Field)) : Option Uuid :=
  match fields.lookup name with
  | some (.relation u) => u
  | _ => none

/-- Metadata from its decoded fields. The first required field that never came
is reported. -/
def ofFields (fields : List (String × Field)) : Except Json.DecodeError Metadata :=
  match fields.lookup "id", fields.lookup "name", fields.lookup "timestamp",
    fields.lookup "metadata" with
  | some (.id i), some (.name n), some (.timestamp t), some (.custom c) =>
    .ok ⟨i, n, t, relationIn "correlation_id" fields, relationIn "causation_id" fields, c⟩
  | none, _, _, _ => .error (.missingField "id")
  | _, none, _, _ => .error (.missingField "name")
  | _, _, none, _ => .error (.missingField "timestamp")
  | _, _, _, _ => .error (.missingField "metadata")

/-- Metadata from a reading. -/
def decode (origin : Json.Origin) (r : Json.Reading) : Except Json.DecodeError Metadata := do
  ofFields (← recordType.fieldsOf origin r)

/-- Metadata from a JSON value. -/
def ofJson (v : Json) : Except Json.DecodeError Metadata :=
  decode .value v.toReading

/-- Metadata from a JSON text that holds nothing else. -/
def ofText (text : String) : Except Json.DecodeError Metadata := do
  let (r, alone) := Json.read text
  let m ← decode .text r
  if alone then .ok m else .error .malformed

/-- A relation as JSON. -/
def relationJson : Option Uuid → Json
  | none => .null
  | some u => .string u.text

/-- The JSON form of metadata. -/
def toJson (m : Metadata) : Json :=
  .ofEntries [("id", .string m.id.text), ("name", .string m.name),
    ("timestamp", .string m.timestamp.text), ("correlation_id", relationJson m.correlation),
    ("causation_id", relationJson m.causation), ("metadata", m.custom)]

end Metadata

end EventWiring
