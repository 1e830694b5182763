import EventWiring.Handler.Method

/-! Type models. A model lists the methods of a target type in layers: the
type's own declarations, then those of each type it extends, nearest first. The
layers of a parent reach the child's targets through an accessor, so an
inherited method runs on the embedded parent value. -/
namespace EventWiring

/-- The methods that one type declares. -/
structure Layer (T A : Type) where
  name : String
  declared : List (MethodDecl T A)

namespace Layer

variable {T A : Type}

/-- The layer on targets that embed the layer's own target. -/
def project {C : Type} (l : Layer T A) (accessor : C → T) : Layer C A :=
  ⟨l.name, l.declared.map (·.project accessor)⟩

end Layer

/-- The declarations of a type and of the types it extends. -/
structure TypeModel (T A : Type) where
  own : Layer T A
  ancestors : List (Layer T A)

namespace TypeModel

variable {T A : Type}

/-- A type that declares and extends nothing. -/
def new (name : String) : TypeModel T A := ⟨⟨name, []⟩, []⟩

/-- The name of the type. -/
def name (m : TypeModel T A) : String := m.own.name

/-- Declares a method after those declared before. -/
def method (m : TypeModel T A) (d : MethodDecl T A) : TypeModel T A :=
  { m with own := { m.own with declared := m.own.declared ++ [{ d with declaredBy := m.name }] } }

/-- The layers, most derived first. -/
def lineage (m : TypeModel T A) : List (Layer T A) := m.own :: m.ancestors

/-- Inherits every method of a parent, which is reached through an accessor. A
parent given earlier is replaced. -/
def extending {P : Type} (m : TypeModel T A) (parent : TypeModel P A) (accessor : T → P) :
    TypeModel T A :=
  { m with ancestors := parent.lineage.map (·.project accessor) }

/-- The model of the type that this one extends. -/
def parent? (m : TypeModel T A) : Option (TypeModel T A) :=
  match m.ancestors with
  | [] => none
  | l :: rest => some ⟨l, rest⟩

/-- Every declaration, most derived layer first. -/
def declarations (m : TypeModel T A) : List (MethodDecl T A) :=
  m.lineage.flatMap Layer.declared

end TypeModel

/-- The methods whose signature has not been seen, the first of each signature. -/
def firstBySignature {T A : Type} (seen : List MethodSignature) :
    List (MethodDecl T A) → List (MethodDecl T A)
  | [] => []
  | d :: rest =>
    if d.signature ∈ seen then firstBySignature seen rest
    else d :: firstBySignature (d.signature :: seen) rest

namespace TypeModel

variable {T A : Type}

/-- Every method that can be called on the type. A method hides the ones with
its signature in later layers, whether or not any of them is a handler. -/
def inheritable (m : TypeModel T A) : List (MethodDecl T A) :=
  firstBySignature [] m.declarations

/-- The inspection text of a layer and of the layers it extends. -/
def inspectFrom (l : Layer T A) (above : List (Layer T A)) : String :=
  let parent := match above with
    | [] => none
    | p :: rest => some (inspectFrom p rest)
  Text.record "TypeModel" [("name", Text.quoted l.name),
    ("declared", Text.bracketed (l.declared.map MethodDecl.inspect)),
    ("parent", Text.optional parent)]

/-- The inspection text. -/
def inspect (m : TypeModel T A) : String :=
  inspectFrom m.own m.ancestors

end TypeModel

end EventWiring
