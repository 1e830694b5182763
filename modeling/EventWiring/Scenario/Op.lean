import EventWiring.Json.Value

/-! The requests of a session. Names are as they were given, so a request may
lack a field or name something that does not exist. -/
namespace EventWiring.Scenario

/-- What a handler does when it is run, in terms of requests `O`. -/
structure Script (O : Type) where
  tag : Option String
  ops : List O
  /-- How often the requests are made; without a limit, always. -/
  max : Option Nat

/-- An entry of an explicit event list. -/
inductive RefSpec where
  | type (key : String)
  | named (name : String)

/-- One step in building a declaration. -/
inductive StepSpec where
  | event (key : String)
  | foreign (key : String)
  | annotated (refs : List RefSpec)
  | handlesEvent (key : String)
  | handlesNone
  | invoker
  /-- No step that is known. -/
  | unknown

/-- A declared method. -/
structure MethodSpec (O : Type) where
  name : Option String
  steps : Option (List StepSpec)
  script : Script O

/-- A model: its methods and the models it extends, of which the last counts. -/
inductive ModelSpec (O : Type) where
  | mk (name : Option String) (methods : List (MethodSpec O)) (extended : List (ModelSpec O))

/-- How a new bus is configured. -/
inductive BusSetup where
  | plain
  | decoded (config : Json)
  /-- Settings made one after another: logging, or else warnings, on or off. -/
  | settings (list : List (Bool × Bool))

/-- A request. -/
inductive Op where
  | openBus (id : Option String) (setup : BusSetup)
  | cloneBus (bus id : Option String)
  | dropBus (bus : Option String)
  | busInfo (bus : Option String)
  | subscribe (typed : Bool) (bus id event : Option String) (script : Script Op)
  | publish (dynamic : Bool) (bus event : Option String) (payload : Json)
  | unsubscribeAll (bus event : Option String)
  | clear (bus : Option String)
  | count (bus event : Option String)
  | key (event : Option String)
  | registered (event : Option String)
  | remove (token : Option String)
  | token (token : Option String)
  | dropToken (token : Option String)
  | handle (id : Option String)
  | push (token handle : Option String)
  | handleInfo (handle : Option String)
  | unbind (handle : Option String)
  | dropHandle (handle : Option String)
  | chain (id : Option String) (depth : Nat)
  | member (id : Option String) (className : String) (bus : Option String)
  | strong (target : Option String)
  | binder (id : Option String) (model : ModelSpec Op) (catalog : Option (List String))
      (debug : Bool)
  | bind (bus target binder handle : Option String)
  | invoke (binder target : Option String) (index : Option Nat) (event : Option String)
      (payload : Json)
  | shared (className : Option String)
  /-- A request of no known name. -/
  | unknown (name : Option String)

/-- The name of a request. -/
def Op.name : Op → String
  | openBus _ _ => "bus"
  | cloneBus _ _ => "clone_bus"
  | dropBus _ => "drop_bus"
  | busInfo _ => "bus_info"
  | subscribe typed _ _ _ _ => if typed then "subscribe" else "subscribe_key"
  | publish dynamic _ _ _ => if dynamic then "publish_dyn" else "publish"
  | unsubscribeAll _ _ => "unsubscribe_all"
  | clear _ => "clear"
  | count _ _ => "count"
  | key _ => "key"
  | registered _ => "registered"
  | remove _ => "remove"
  | token _ => "token"
  | dropToken _ => "drop_token"
  | handle _ => "handle"
  | push _ _ => "push"
  | handleInfo _ => "handle_info"
  | unbind _ => "unbind"
  | dropHandle _ => "drop_handle"
  | chain _ _ => "target"
  | member _ _ _ => "target"
  | strong _ => "strong"
  | binder _ _ _ _ => "binder"
  | bind _ _ _ _ => "bind"
  | invoke _ _ _ _ _ => "invoke"
  | shared _ => "shared"
  | unknown name => name.getD ""

end EventWiring.Scenario
