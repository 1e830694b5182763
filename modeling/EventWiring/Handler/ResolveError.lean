/-! Why a model cannot be resolved. An error names the method at fault and the
type that declares it. -/
namespace EventWiring

/-- What is wrong with a handler. -/
inductive HandlerFault where
  /-- More than one parameter. -/
  | arity (count : Nat)
  /-- Neither a parameter nor a list. -/
  | missingEventList
  /-- A parameter that is no event. -/
  | notAnEvent (param : String)
  /-- No list, and a parameter that no event has as its own type. -/
  | abstractParameter (param : String)
  /-- A listed type that no event has as its own type. -/
  | abstractEvent (event : String)
  /-- A listed type that the parameter does not take. -/
  | notAssignable (event param : String)
  | unknownEventType (name : String)
  | ambiguousEventType (name : String)
  | missingInvoker
deriving DecidableEq, Repr

/-- A fault of a declared method. -/
structure ResolveError where
  declaredBy : String
  method : String
  fault : HandlerFault
deriving DecidableEq, Repr

namespace ResolveError

/-- The requirement that a handler's parameter breaks. -/
def concreteArgument : String :=
  "annotated with #[event_handler] must have exactly one argument of a concrete type " ++
    "implementing Event, found "

/-- What is said of the method. -/
def complaint : HandlerFault → String
  | .arity count =>
    s!"annotated with #[event_handler] takes {count} parameters; " ++
      "handlers take at most one event parameter"
  | .missingEventList =>
    "annotated with #[event_handler] has no parameter, so it must list the events it handles"
  | .notAnEvent param => concreteArgument ++ param
  | .abstractParameter param => concreteArgument ++ "abstract " ++ param
  | .abstractEvent event => s!"lists {event}, which is not a concrete event type"
  | .notAssignable event param =>
    s!"lists {event}, which cannot be passed as its parameter type {param}"
  | .unknownEventType name => s!"lists unknown event type {name}"
  | .ambiguousEventType name => s!"lists {name}, which matches more than one event type"
  | .missingInvoker => "is marked as a handler but has no invoker"

/-- The wording of an error. -/
def message (e : ResolveError) : String :=
  "Method " ++ e.declaredBy ++ "::" ++ e.method ++ " " ++ complaint e.fault

end ResolveError

end EventWiring
