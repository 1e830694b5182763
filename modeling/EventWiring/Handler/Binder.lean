import EventWiring.Bus.Handle
import EventWiring.Handler.Resolution

/-! Binders. A binder is the resolved wiring of a target type. It subscribes the
handlers of any number of targets on any number of buses, each handler once for
every event type in its list. -/
namespace EventWiring

/-- The name of a shared target. -/
abbrev TargetId := Nat

/-- A callback: the action it takes on an event, and the shared target it holds. -/
structure Callback (A : Type) where
  holds : Option TargetId
  run : Event → Option A

/-- The callback of a plain function of the events of one type. -/
def Callback.typed {A : Type} (type : EventType) (body : Event → A) : Callback A :=
  ⟨none, fun e => if type.accepts e then some (body e) else none⟩

/-- A target that is shared between its owner and the callbacks bound to it. -/
structure Shared (T : Type) where
  id : TargetId
  value : T

/-- The resolved wiring of a target type. -/
structure EventBinder (T A : Type) where
  target : String
  descriptors : List (HandlerDescriptor T A)

namespace EventBinder

variable {T A : Type}

/-- Resolves a model. -/
def ofModel (catalog : Option EventCatalog) (m : TypeModel T A) :
    Except ResolveError (EventBinder T A) :=
  (m.resolve catalog).map fun hs => ⟨m.name, hs⟩

/-- The subscriptions that binding a target makes, in order. -/
def wiring (b : EventBinder T A) (target : Shared T) : List (EventType × Callback A) :=
  b.descriptors.flatMap fun d =>
    d.eventTypes.map fun t => (t, ⟨some target.id, d.invoker target.value⟩)

/-- The inspection text. -/
def inspect (b : EventBinder T A) : String :=
  Text.record "EventBinder" [("target", Text.quoted b.target),
    ("descriptors", Text.bracketed (b.descriptors.map HandlerDescriptor.inspect))]

end EventBinder

namespace System

variable {T A : Type}

/-- Subscribes callbacks for event types and collects the tokens in a handle. -/
def subscribeAll (s : System (Callback A)) (bus : BusId) (h : BindingHandle) :
    List (EventType × Callback A) → System (Callback A) × BindingHandle
  | [] => (s, h)
  | (t, callback) :: rest =>
    let (s, key) := s.keyFor t
    let (s, token) := s.subscribe bus key callback
    subscribeAll s bus (h.push token) rest

/-- Subscribes every handler of a target on a bus. -/
def bind (s : System (Callback A)) (bus : BusId) (b : EventBinder T A) (target : Shared T) :
    System (Callback A) × BindingHandle :=
  let (s, h) := s.subscribeAll bus .empty (b.wiring target)
  (s.report [.bound b.target h.tokens.length], h)

end System

end EventWiring
