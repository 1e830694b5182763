import EventWiring.Event.Value

/-! Method declarations. A declaration says how a method is called, whether it
handles events, and how to run it on a target. Two declarations are the same
method when their signatures agree, and that is what overriding goes by. -/
namespace EventWiring

/-! ### Parameters and signatures -/

/-- The declared type of a parameter: a reference to an event type, or any other
type, of which only the written name matters. -/
inductive ParamType where
  | event (type : EventType)
  | foreign (name : String)
deriving DecidableEq, Repr

namespace ParamType

/-- The full name of the parameter's type. -/
def typeName : ParamType → String
  | event t => "&" ++ t.name
  | foreign name => name

/-- The event type behind the parameter, if it is an event. -/
def eventType? : ParamType → Option EventType
  | event t => some t
  | foreign _ => none

/-- The inspection text. -/
def inspect (p : ParamType) : String :=
  Text.record "ParamType" [("type_name", Text.quoted p.typeName),
    ("event", Text.optional (p.eventType?.map EventType.inspect))]

end ParamType

/-- A method name with the names of its parameter types. -/
structure MethodSignature where
  name : String
  params : List String
deriving DecidableEq, Repr

/-- The signature as it is written. -/
def MethodSignature.text (s : MethodSignature) : String :=
  s.name ++ "(" ++ ", ".intercalate s.params ++ ")"

/-! ### Annotations -/

/-- An event type in an explicit list: the type itself or its name. -/
inductive EventRef where
  | type (type : EventType)
  | named (name : String)
deriving DecidableEq, Repr

/-- The inspection text. -/
def EventRef.inspect : EventRef → String
  | type t => Text.tagged "Type" t.inspect
  | named n => Text.tagged "Named" (Text.quoted n)

/-- The mark of a handler. With an empty list the handled type is the type of
the parameter; a list takes the place of that. -/
structure Annotation where
  events : List EventRef
deriving DecidableEq, Repr

namespace Annotation

/-- The mark without a list. -/
def implicit : Annotation := ⟨[]⟩

/-- Whether events are listed. -/
def isExplicit (a : Annotation) : Bool := !a.events.isEmpty

/-- The inspection text. -/
def inspect (a : Annotation) : String :=
  Text.record "HandlerAnnotation" [("events", Text.bracketed (a.events.map EventRef.inspect))]

end Annotation

/-! ### Declarations -/

/-- Runs a handler on a target with a delivered event: the action its body takes,
or none when the event is not of the type that the body expects. -/
abbrev Invoker (T A : Type) := T → Event → Option A

/-- A declared method of targets `T` whose bodies take actions `A`. -/
structure MethodDecl (T A : Type) where
  name : String
  declaredBy : String
  params : List ParamType
  annotation : Option Annotation
  invoker : Option (Invoker T A)

namespace MethodDecl

variable {T A : Type}

/-- A method without parameters, mark or invoker. -/
def new (name : String) : MethodDecl T A := ⟨name, "", [], none, none⟩

/-- Adds a parameter. -/
def param (d : MethodDecl T A) (p : ParamType) : MethodDecl T A :=
  { d with params := d.params ++ [p] }

/-- Marks the method as a handler. -/
def annotated (d : MethodDecl T A) (a : Annotation) : MethodDecl T A :=
  { d with annotation := some a }

/-- Sets how the method is run. -/
def withInvoker (d : MethodDecl T A) (run : Invoker T A) : MethodDecl T A :=
  { d with invoker := some run }

/-- Marks the method without a list unless it already has a mark. -/
def marked (d : MethodDecl T A) : MethodDecl T A :=
  { d with annotation := some (d.annotation.getD .implicit) }

/-- Makes the method a handler with one event parameter. Its body runs on the
events that the parameter's type takes. -/
def handlesEvent (d : MethodDecl T A) (type : EventType) (body : T → Event → A) :
    MethodDecl T A :=
  { d.marked with
    params := [.event type]
    invoker := some fun target e => if type.accepts e then some (body target e) else none }

/-- Makes the method a handler without parameters. -/
def handlesNone (d : MethodDecl T A) (body : T → A) : MethodDecl T A :=
  { d.marked with params := [], invoker := some fun target _ => some (body target) }

/-- The method's signature. -/
def signature (d : MethodDecl T A) : MethodSignature :=
  ⟨d.name, d.params.map ParamType.typeName⟩

/-- Whether the method is marked as a handler. -/
def isHandler (d : MethodDecl T A) : Bool := d.annotation.isSome

/-- The method on targets that embed the method's own target. -/
def project {C : Type} (d : MethodDecl T A) (accessor : C → T) : MethodDecl C A :=
  { name := d.name
    declaredBy := d.declaredBy
    params := d.params
    annotation := d.annotation
    invoker := d.invoker.map fun run child e => run (accessor child) e }

/-- The inspection text. -/
def inspect (d : MethodDecl T A) : String :=
  Text.record "MethodDecl" [("name", Text.quoted d.name),
    ("declared_by", Text.quoted d.declaredBy),
    ("params", Text.bracketed (d.params.map ParamType.inspect)),
    ("annotation", Text.optional (d.annotation.map Annotation.inspect)),
    ("has_invoker", Text.boolean d.invoker.isSome)]

/-! ### Building step by step -/

/-- One step in building a declaration. -/
inductive Step (T A : Type) where
  | param (p : ParamType)
  | annotated (a : Annotation)
  | withInvoker (run : Invoker T A)
  | handlesEvent (type : EventType) (body : T → Event → A)
  | handlesNone (body : T → A)

/-- Takes one step. -/
def step (d : MethodDecl T A) : Step T A → MethodDecl T A
  | .param p => d.param p
  | .annotated a => d.annotated a
  | .withInvoker run => d.withInvoker run
  | .handlesEvent type body => d.handlesEvent type body
  | .handlesNone body => d.handlesNone body

/-- The declaration that a list of steps builds. -/
def build (name : String) (steps : List (Step T A)) : MethodDecl T A :=
  steps.foldl step (new name)

end MethodDecl

end EventWiring
