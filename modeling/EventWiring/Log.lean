import EventWiring.Event.Key
import EventWiring.Event.Uuid
import EventWiring.Handler.ResolveError
import EventWiring.Json.Value

/-! The log. Each entry says what happened; its level, wording and fields follow
from that. -/
namespace EventWiring

/-- How grave a log entry is. -/
inductive LogLevel where
  | trace
  | debug
  | info
  | warn
  | error
deriving DecidableEq, Repr

/-- The written name of a level. -/
def LogLevel.text : LogLevel → String
  | trace => "TRACE"
  | debug => "DEBUG"
  | info => "INFO"
  | warn => "WARN"
  | error => "ERROR"

/-- What a log entry reports. -/
inductive LogEntry where
  /-- A type received its key. -/
  | keyCreated (key : EventKey)
  | subscribed (subscription : Nat) (key : EventKey)
  /-- A publish begins; the event may carry an identifier. -/
  | publishing (event : String) (id : Option Uuid)
  /-- A publish found no callbacks. -/
  | unhandled (event : String)
  /-- A publish has run all its callbacks. -/
  | published (event : String) (handlers : Nat)
  | unsubscribedAll (type : String)
  | cleared
  | removed (subscription : Nat) (key : EventKey)
  /-- A target was bound. -/
  | bound (target : String) (subscriptions : Nat)
  /-- A handle was unbound. -/
  | unbound (subscriptions : Nat)
  /-- A model was resolved. -/
  | resolved (target : String) (handlers : Nat)
  /-- A model could not be resolved. -/
  | rejected (target : String) (error : ResolveError)
deriving DecidableEq, Repr

namespace LogEntry

/-- The level of an entry. -/
def level : LogEntry → LogLevel
  | keyCreated _ => .trace
  | subscribed _ _ => .debug
  | publishing _ _ => .info
  | unhandled _ => .warn
  | published _ _ => .debug
  | unsubscribedAll _ => .debug
  | cleared => .info
  | removed _ _ => .debug
  | bound _ _ => .debug
  | unbound _ => .debug
  | resolved _ _ => .debug
  | rejected _ _ => .error

/-- The wording of an entry. -/
def message : LogEntry → String
  | keyCreated _ => "Created event type key"
  | subscribed _ key => s!"Subscribed handler for event type: {key.name}"
  | publishing event none => s!"Publishing event: {event}"
  | publishing event (some id) => s!"Publishing event: {event} (id: {id.text})"
  | unhandled event => s!"No handlers registered for event: {event}"
  | published event _ => s!"Event published successfully: {event}"
  | unsubscribedAll type => s!"Unsubscribed all handlers for event type: {type}"
  | cleared => "Cleared all event handlers"
  | removed _ key => s!"Removed handler for event type: {key.name}"
  | bound _ _ => "Bound event handlers"
  | unbound _ => "Unbound event handlers"
  | resolved _ _ => "Resolved event handlers"
  | rejected _ error => error.message

/-- The fields of an entry. -/
def fields : LogEntry → List (String × Json)
  | keyCreated key => [("key", .ofNat key.id), ("event_type", .string key.name)]
  | subscribed n key => [("subscription", .ofNat n), ("key", .ofNat key.id)]
  | publishing _ _ => []
  | unhandled _ => []
  | published _ n => [("handlers", .ofNat n)]
  | unsubscribedAll _ => []
  | cleared => []
  | removed n key => [("subscription", .ofNat n), ("key", .ofNat key.id)]
  | bound target n => [("target_type", .string target), ("subscriptions", .ofNat n)]
  | unbound n => [("subscriptions", .ofNat n)]
  | resolved target n => [("target_type", .string target), ("handlers", .ofNat n)]
  | rejected target error =>
    [("target_type", .string target), ("method", .string error.method)]

/-- The JSON form of an entry. -/
def toJson (e : LogEntry) : Json :=
  .ofEntries ([("level", .string e.level.text), ("message", .string e.message)] ++ e.fields)

end LogEntry

end EventWiring
