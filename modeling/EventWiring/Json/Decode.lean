import EventWiring.Json.Reading
import EventWiring.Json.Printer
import EventWiring.Text.Quoted

/-! Decoding records from JSON. A record reads from an object, by field name, or
from an array, by field position. Faults are reported in reading order: the
first value that does not fit, a field given twice, a fault of the text itself;
fields that never came are noticed last. -/
namespace EventWiring.Json

/-- Why JSON does not fit a type. -/
inductive DecodeError where
  /-- The text is not JSON, or ends early. -/
  | malformed
  /-- A value of another kind, with what was found and what was expected. -/
  | wrongKind (found expected : String)
  | missingField (name : String)
  | duplicateField (name : String)
  /-- An array or object of the wrong length. -/
  | wrongLength (length : Nat) (expected : String)
  /-- A string that does not read as the type, or a bound not kept. -/
  | invalidText
deriving DecidableEq, Repr

/-- The wording of a fault. A malformed text and an unreadable string have none. -/
def DecodeError.message? : DecodeError → Option String
  | .malformed => none
  | .invalidText => none
  | .wrongKind found expected => some s!"invalid type: {found}, expected {expected}"
  | .missingField name => some ("missing field \x60" ++ name ++ "\x60")
  | .duplicateField name => some ("duplicate field \x60" ++ name ++ "\x60")
  | .wrongLength n expected => some s!"invalid length {n}, expected {expected}"

/-- A text between backquotes. -/
def ticked (text : String) : String :=
  "\x60" ++ text ++ "\x60"

/-- How a fault names the value that was found; a broken one has no name. -/
def Reading.kind? : Reading → Option String
  | .null => some "null"
  | .bool b => some ("boolean " ++ ticked (if b then "true" else "false"))
  | .number (.whole n) => some ("integer " ++ ticked (toString n))
  | .number (.real bits) => some ("floating point " ++ ticked (String.ofList (realText bits)))
  | .string s => some ("string " ++ Text.quoted s)
  | .array _ _ => some "sequence"
  | .object _ _ => some "map"
  | .vast | .unpaired | .broken => none

/-- The fault of a value that is not of the expected kind. -/
def Reading.mismatch (r : Reading) (expected : String) : DecodeError :=
  match r.kind? with
  | some found => .wrongKind found expected
  | none => .malformed

/-- A truth value. -/
def decodeBool : Reading → Except DecodeError Bool
  | .bool b => .ok b
  | r => .error (r.mismatch "a boolean")

/-- A string. -/
def decodeString (expected : String) : Reading → Except DecodeError String
  | .string s => .ok s
  | r => .error (r.mismatch expected)

/-- Null as none, anything else through a decoder. -/
def decodeOptional {α : Type} (decode : Reading → Except DecodeError α) :
    Reading → Except DecodeError (Option α)
  | .null => .ok none
  | r => (decode r).map some

/-- Any value that nests no deeper than `depth`. -/
def decodeAny (depth : Nat) (r : Reading) : Except DecodeError Json :=
  match r.toJson? depth with
  | some v => .ok v
  | none => .error .malformed

/-- Where a record is read from. A text must stop at the last field, while a
value of too many items is an error about its length. -/
inductive Origin where
  | text
  | value
deriving DecidableEq, Repr

mutual

/-- Whether a reading has no fault that reading past it would meet. -/
def Reading.whole : Reading → Bool
  | .broken => false
  | .array items closed => Reading.allWhole items && closed
  | .object entries closed => Reading.entriesWhole entries && closed
  | _ => true

/-- Whether all of a list of readings are whole. -/
def Reading.allWhole : List Reading → Bool
  | [] => true
  | r :: rest => r.whole && Reading.allWhole rest

/-- Whether the values of all entries are whole. -/
def Reading.entriesWhole : List (String × Reading) → Bool
  | [] => true
  | (_, r) :: rest => r.whole && Reading.entriesWhole rest

end

/-- The type of a record: its name, its fields in order, and how a field's value
decodes. `lenient` records take defaults for fields that never came. -/
structure RecordType (α : Type) where
  name : String
  fields : List String
  decode : String → Reading → Except DecodeError α
  lenient : Bool

namespace RecordType

variable {α : Type}

/-- The entries of an object, front to back. A name given twice is noticed when
it comes again, before its value. Unknown fields are skipped. -/
def walkEntries (t : RecordType α) (closed : Bool) :
    List (String × α) → List (String × Reading) → Except DecodeError (List (String × α))
  | done, [] => if closed then .ok done else .error .malformed
  | done, (key, r) :: rest =>
    if key ∈ t.fields then
      if done.any (·.1 = key) then .error (.duplicateField key)
      else do
        let v ← t.decode key r
        walkEntries t closed (done ++ [(key, v)]) rest
    else if r.whole then walkEntries t closed done rest
    else .error .malformed

/-- The items of an array, matched with the fields in order. -/
def walkItems (t : RecordType α) (origin : Origin) (closed : Bool) (length : Nat) :
    List String → List Reading → List (String × α) → Except DecodeError (List (String × α))
  | [], rest, done =>
    match origin with
    | .text => if closed && rest.isEmpty then .ok done else .error .malformed
    | .value =>
      if rest.isEmpty then .ok done
      else .error (.wrongLength length "fewer elements in array")
  | _ :: _, [], done =>
    if !closed then .error .malformed
    else if t.lenient then .ok done
    else .error (.wrongLength length
      s!"struct {t.name} with {t.fields.length} elements")
  | f :: fs, r :: rest, done => do
    let v ← t.decode f r
    walkItems t origin closed length fs rest (done ++ [(f, v)])

/-- The fields of a record, in the order they came. -/
def fieldsOf (t : RecordType α) (origin : Origin) :
    Reading → Except DecodeError (List (String × α))
  | .object entries closed => walkEntries t closed [] entries
  | .array items closed => walkItems t origin closed items.length t.fields items []
  | r => .error (r.mismatch s!"struct {t.name}")

end RecordType

end EventWiring.Json
