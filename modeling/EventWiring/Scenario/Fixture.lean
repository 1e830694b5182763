import EventWiring.Handler.SharedBinders
import EventWiring.Scenario.Fault

/-! What scripted sessions are played with: event kinds that build events from
JSON, targets that are chains of labelled nodes, and the actions that handlers
take. -/
namespace EventWiring.Scenario

/-! ### Events -/

/-- How the events of a kind show themselves. -/
inductive EventForm where
  /-- A tag and the payload. -/
  | tagged (tag : String)
  /-- The payload, if it is a string, is also the event's own name. -/
  | selfNamed
  /-- The payload is the event's metadata. -/
  | described
deriving DecidableEq, Repr

/-- A kind of events. -/
structure EventKind where
  type : ConcreteType
  form : EventForm
deriving DecidableEq, Repr

/-- The event of a kind with a payload. -/
def EventKind.make (k : EventKind) (payload : Json) : Except Fault Event :=
  match k.form with
  | .tagged tag => .ok ⟨k.type, k.type.name, none, payload, tag ++ ":" ++ payload.compact⟩
  | .selfNamed =>
    let name := match payload with
      | .string s => s
      | _ => ""
    .ok ⟨k.type, name, none, payload, "Named:" ++ name⟩
  | .described =>
    match Metadata.ofJson payload with
    | .ok m => .ok ⟨k.type, m.name, some m, payload, "Meta:" ++ m.custom.compact⟩
    | .error e => .error (.data e)

/-! ### Targets -/

/-- A node of a target. Below it are further nodes, each the base of the one
above; a node without any is its own base. -/
structure Node where
  label : String
  below : Nat
  /-- The bus that the target holds. -/
  bus : Option BusId

/-- The embedded node. -/
def Node.base (n : Node) : Node :=
  if n.below = 0 then n else { n with label := n.label ++ ".base", below := n.below - 1 }

/-! ### Actions -/

/-- The name of a script in its session. -/
abbrev ScriptId := Nat

/-- What a handler does. Each action records the handler's tag and, if it takes
one, the event. -/
inductive Action where
  /-- Runs a script. -/
  | play (label tag : String) (script : ScriptId) (event : Option Event)
  /-- Records the call only. -/
  | record (label tag : String) (event : Option Event)
  /-- Publishes an event of another kind with the same payload on a bus. -/
  | relay (label tag : String) (event : Event) (bus : Option BusId) (kind : EventKind)

/-- A class of targets that has a model of its own. -/
structure TargetClass where
  model : TypeModel Node Action
  /-- The number of nodes below the first. -/
  depth : Nat
  /-- Whether its targets hold a bus. -/
  holdsBus : Bool
  /-- Whether the uses of its model are counted. -/
  counted : Bool

/-! ### Tables -/

/-- The names that requests may use. -/
structure Fixtures where
  /-- Event kinds whose types have keys. -/
  kinds : Directory EventKind
  /-- Event kinds whose types never receive a key. -/
  unkeyed : Directory EventKind
  /-- Type names of parameters that are no events. -/
  foreign : Directory String
  classes : Directory TargetClass

namespace Fixtures

/-- The name of the base contract. -/
def baseKey : String := "base"

/-- The kind of a name. -/
def kind (fx : Fixtures) (key : String) : Except Fault EventKind :=
  named "event " fx.kinds key

/-- The kind of a name, with or without key. -/
def anyKind (fx : Fixtures) (key : String) : Except Fault EventKind :=
  match fx.unkeyed.find? key with
  | some k => .ok k
  | none => fx.kind key

/-- The type of a name, the base included. `what` says what was to be named. -/
def typeOr (fx : Fixtures) (what key : String) : Except Fault EventType :=
  if key = baseKey then .ok .base
  else (named what fx.kinds key).map fun k => .concrete k.type

/-- The type of a name, the base included. -/
def type (fx : Fixtures) (key : String) : Except Fault EventType :=
  fx.typeOr "event " key

/-- The catalog of a list of names. -/
def catalog (fx : Fixtures) (keys : List String) : Except Fault EventCatalog :=
  (keys.mapM fx.type).map .ofTypes

/-- The registry in which the base and every kind have their keys. -/
def registry (fx : Fixtures) : KeyRegistry :=
  .ofTypes (.base :: fx.kinds.values.map fun k => .concrete k.type)

/-- The models of all classes. -/
def models (fx : Fixtures) : List ((_ : String) × TypeModel Node Action) :=
  fx.classes.entries.map fun c => ⟨c.1, c.2.model⟩

end Fixtures

end EventWiring.Scenario
