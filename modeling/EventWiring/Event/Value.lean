import EventWiring.Event.Type
import EventWiring.Event.Metadata

/-! Event values, as a bus sees them: a concrete type, the name the event gives
itself, its metadata, the data it carries, and the text that shows it. -/
namespace EventWiring

/-- An event. -/
structure Event where
  type : ConcreteType
  name : String
  metadata : Option Metadata
  payload : Json
  text : String
deriving Repr

/-- The type of an event as handlers name it. -/
def Event.eventType (e : Event) : EventType := .concrete e.type

/-- Whether an event can be taken as a parameter type: the base takes every
event, a concrete type only its own. -/
def EventType.accepts (param : EventType) (e : Event) : Bool :=
  match param with
  | .base => true
  | .concrete t => e.type = t

end EventWiring
