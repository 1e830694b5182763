import EventWiring.Json.Decode
import EventWiring.Text.Record

/-! What a bus reports: whether it logs what it does, and whether it warns when
an event finds no callbacks. Neither changes what the bus does. -/
namespace EventWiring

/-- The configuration of a bus. -/
structure BusConfig where
  logging : Bool
  warnUnhandled : Bool
deriving DecidableEq, Repr

namespace BusConfig

/-- Logging without warnings. -/
def default : BusConfig := ⟨true, false⟩

/-- The inspection text. -/
def inspect (c : BusConfig) : String :=
  Text.record "EventBusConfig" [("enable_logging", Text.boolean c.logging),
    ("warn_on_unhandled", Text.boolean c.warnUnhandled)]

/-- The record type of configurations: every field may be left out. -/
def recordType : Json.RecordType Bool :=
  { name := "EventBusConfig"
    fields := ["enable_logging", "warn_on_unhandled"]
    decode := fun _ => Json.decodeBool
    lenient := true }

/-- The configuration that fields describe. -/
def ofFields (fields : List (String × Bool)) : BusConfig :=
  { logging := (fields.lookup "enable_logging").getD default.logging
    warnUnhandled := (fields.lookup "warn_on_unhandled").getD default.warnUnhandled }

/-- A configuration from a JSON value. -/
def ofJson (v : Json) : Except Json.DecodeError BusConfig :=
  (recordType.fieldsOf .value v.toReading).map ofFields

/-- A configuration from a JSON text that holds nothing else. -/
def ofText (text : String) : Except Json.DecodeError BusConfig := do
  let (r, alone) := Json.read text
  let fields ← recordType.fieldsOf .text r
  if alone then .ok (ofFields fields) else .error .malformed

/-- The JSON form of a configuration. -/
def toJson (c : BusConfig) : Json :=
  .ofEntries [("enable_logging", .bool c.logging), ("warn_on_unhandled", .bool c.warnUnhandled)]

end BusConfig

end EventWiring
