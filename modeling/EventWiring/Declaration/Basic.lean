import EventWiring.Declaration.ImplTrait
import EventWiring.Declaration.Options

/-! The methods of a block that enter the model of its type. A marked method is a
handler and must be fit to be one. An unmarked method enters the model only because
it may hide an inherited handler, so it enters whenever it has the form of one. -/
namespace EventWiring

open Source

/-! ### Markers -/

/-- Whether an attribute marks a handler, whatever path leads to its name. -/
def Source.Attribute.isMarker (a : Attribute) : Bool := a.path.getLast? = some "event_handler"

namespace Source.Method

/-- A method without its markers. -/
def unmarked (m : Method) : Method := { m with attrs := m.attrs.filter (!·.isMarker) }

/-- The options that a marker gives. -/
def markerOptions (marker : Attribute) : Except Problem HandlerOptions :=
  match marker.detail with
  | .none => .ok ⟨[]⟩
  | .list _ inner => HandlerOptions.ofTokens inner
  | .value _ => .error .markerWithValue

/-- The options of a method's only marker, if it has one. -/
def handlerOptions (m : Method) : Except Problem (Option HandlerOptions) :=
  match m.attrs.filter Attribute.isMarker with
  | [] => .ok none
  | [marker] => (markerOptions marker).map some
  | _ => .error (.repeatedMarker m.name)

/-- Whether a method has generic parameters. -/
def isGeneric (m : Method) : Bool := !m.signature.generics.items.isEmpty

/-- Whether a method takes its target by shared reference. -/
def sharesTarget (m : Method) : Bool := m.signature.inputs.receiver.any Receiver.isShared

/-- The parameters besides the target. -/
def params (m : Method) : List Param := m.signature.inputs.params

end Source.Method

/-! ### Shapes -/

/-- What a method takes besides its target: nothing, or an event by shared
reference. -/
inductive Shape where
  | alone
  | event (lifetime : Option String) (elem : Ty)

namespace Shape

/-- The type of the parameter as it is written. -/
def written : Shape → Option Ty
  | alone => none
  | event lifetime elem => some (.reference lifetime false elem)

/-- The shape of a method with one parameter, if it takes it by shared reference and
the type has a name. -/
def ofType? : Ty → Option Shape
  | .reference lifetime false elem =>
    if elem.showsImplTrait then none else some (.event lifetime elem)
  | _ => none

end Shape

/-! ### Declarations -/

/-- A method in the model of its type. A handler has a list of events, which is
empty if it handles what it takes; a method that is no handler has none. -/
structure Declaration where
  name : String
  shape : Shape
  handles : Option (List Ty)

namespace Declaration

/-- Whether a method is declared as a handler. -/
def isHandler (d : Declaration) : Bool := d.handles.isSome

/-- The shape of a handler, which takes an event or lists some. -/
def handlerShape (m : Method) (options : HandlerOptions) : Except Problem Shape :=
  match m.params with
  | [] => if options.handles.isEmpty then .error (.noEvents m.name) else .ok .alone
  | [param] =>
    if param.type.showsImplTrait then .error (.unnamedType m.name)
    else
      match Shape.ofType? param.type with
      | some shape => .ok shape
      | none => .error (.unsharedEvent m.name)
  | params => .error (.tooManyParams m.name params.length)

/-- The declaration of a marked method. -/
def ofHandler (m : Method) (options : HandlerOptions) : Except Problem Declaration := do
  if m.isGeneric then throw (.genericHandler m.name)
  if m.signature.isAsync then throw (.asyncHandler m.name)
  if !m.sharesTarget then throw (.unsharedTarget m.name)
  return ⟨m.name, ← handlerShape m options, some options.handles⟩

/-- The shape of a method that may hide a handler. -/
def hidingShape? (m : Method) : Option Shape :=
  match m.params with
  | [] => some .alone
  | [param] => Shape.ofType? param.type
  | _ => none

/-- The declaration of an unmarked method, if it may hide a handler. -/
def ofUnmarked? (m : Method) : Option Declaration :=
  if m.isGeneric || m.signature.isAsync || !m.sharesTarget then none
  else (hidingShape? m).map fun shape => ⟨m.name, shape, none⟩

/-- The declaration of a method, if it enters the model. -/
def ofMethod (m : Method) : Except Problem (Option Declaration) := do
  match ← m.handlerOptions with
  | some options => return some (← ofHandler m options)
  | none => return ofUnmarked? m

end Declaration

end EventWiring
