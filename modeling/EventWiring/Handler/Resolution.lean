import EventWiring.Handler.Catalog
import EventWiring.Handler.Model
import EventWiring.Log

/-! Resolution turns a model into the ordered list of its handlers, each with
the concrete event types it is wired to. The first method at fault rejects the
whole model. -/
namespace EventWiring

/-- A resolved handler. -/
structure HandlerDescriptor (T A : Type) where
  signature : MethodSignature
  declaredBy : String
  eventTypes : List EventType
  invoker : Invoker T A

/-- The inspection text. -/
def HandlerDescriptor.inspect {T A : Type} (d : HandlerDescriptor T A) : String :=
  Text.record "HandlerDescriptor" [("method", Text.quoted d.signature.text),
    ("declared_by", Text.quoted d.declaredBy),
    ("event_types", Text.bracketed (d.eventTypes.map fun t => Text.quoted t.name))]

namespace Resolution

/-- The type that an entry of a list stands for. Without a catalog no name is
known. -/
def lookup (catalog : Option EventCatalog) : EventRef → Except HandlerFault EventType
  | .type t => .ok t
  | .named name =>
    match catalog with
    | none => .error (.unknownEventType name)
    | some c =>
      match c.lookup name with
      | .ok t => .ok t
      | .error .notFound => .error (.unknownEventType name)
      | .error .ambiguous => .error (.ambiguousEventType name)

/-- The concrete type of one entry of a list, which the parameter must take. -/
def entryType (catalog : Option EventCatalog) (param : Option EventType) (r : EventRef) :
    Except HandlerFault EventType := do
  let t ← lookup catalog r
  if t.isAbstract then .error (.abstractEvent t.name)
  else
    match param with
    | none => .ok t
    | some p => if t.isAssignableTo p then .ok t else .error (.notAssignable t.name p.name)

/-- The types of a list, in order, up to the first entry at fault. -/
def listTypes (catalog : Option EventCatalog) (param : Option EventType) :
    List EventRef → Except HandlerFault (List EventType)
  | [] => .ok []
  | r :: rest => do
    let t ← entryType catalog param r
    let ts ← listTypes catalog param rest
    .ok (t :: ts)

/-- The event type of a handler's parameter, if it takes one. -/
def paramType : List ParamType → Except HandlerFault (Option EventType)
  | [] => .ok none
  | [.event t] => .ok (some t)
  | [.foreign name] => .error (.notAnEvent name)
  | p :: q :: rest => .error (.arity (p :: q :: rest).length)

/-- The event types of a handler: those it lists, or else its parameter's. -/
def handledTypes (catalog : Option EventCatalog) (a : Annotation) (params : List ParamType) :
    Except HandlerFault (List EventType) := do
  let param ← paramType params
  if a.isExplicit then listTypes catalog param a.events
  else
    match param with
    | none => .error .missingEventList
    | some t => if t.isAbstract then .error (.abstractParameter t.name) else .ok [t]

variable {T A : Type}

/-- The descriptor of one handler. -/
def describe (catalog : Option EventCatalog) (d : MethodDecl T A) (a : Annotation) :
    Except HandlerFault (HandlerDescriptor T A) := do
  let types ← handledTypes catalog a d.params
  match d.invoker with
  | none => .error .missingInvoker
  | some run => .ok ⟨d.signature, d.declaredBy, types, run⟩

/-- The descriptors of the handlers among a list of methods. -/
def describeAll (catalog : Option EventCatalog) :
    List (MethodDecl T A) → Except ResolveError (List (HandlerDescriptor T A))
  | [] => .ok []
  | d :: rest =>
    match d.annotation with
    | none => describeAll catalog rest
    | some a =>
      match describe catalog d a with
      | .error fault => .error ⟨d.declaredBy, d.name, fault⟩
      | .ok h => do
        let hs ← describeAll catalog rest
        .ok (h :: hs)

end Resolution

namespace TypeModel

variable {T A : Type}

/-- The handlers of a model, in the order of its inheritable methods. -/
def resolve (catalog : Option EventCatalog) (m : TypeModel T A) :
    Except ResolveError (List (HandlerDescriptor T A)) :=
  Resolution.describeAll catalog m.inheritable

/-- The one log entry of a resolution. -/
def resolutionEntry (m : TypeModel T A) :
    Except ResolveError (List (HandlerDescriptor T A)) → LogEntry
  | .ok hs => .resolved m.name hs.length
  | .error e => .rejected m.name e

/-- Resolves a model. Gives what it logs along with the handlers. -/
def resolveLogged (catalog : Option EventCatalog) (m : TypeModel T A) :
    Except ResolveError (List (HandlerDescriptor T A)) × List LogEntry :=
  let handlers := m.resolve catalog
  (handlers, [m.resolutionEntry handlers])

end TypeModel

end EventWiring
