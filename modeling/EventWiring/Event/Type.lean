import EventWiring.Text.Record

/-! Event types. Every event value has a concrete type; the base is the contract
that all events meet, which a handler may take as its parameter but which no
value has as its own type. -/
namespace EventWiring

/-- A concrete event type: its identity and its full name. -/
structure ConcreteType where
  id : Nat
  name : String
deriving DecidableEq, Repr

/-- A type that a handler may name: a concrete event type or the base contract. -/
inductive EventType where
  | base
  | concrete (type : ConcreteType)
deriving DecidableEq, Repr

namespace EventType

/-- The full name of the base contract. -/
def baseName : String := "dyn eventbind_events::event::Event"

/-- The full name of a type. -/
def name : EventType → String
  | base => baseName
  | concrete t => t.name

/-- Whether no event value can have the type as its own. -/
def isAbstract : EventType → Bool
  | base => true
  | concrete _ => false

/-- Whether an event of the type can be handed to a handler that takes `target`. -/
def isAssignableTo (t target : EventType) : Bool :=
  t = target || target = base

/-- The part of a reversed text before its first pair of colons. -/
def untilColons : List Char → List Char
  | [] => []
  | [c] => [c]
  | c :: d :: rest => if c = ':' && d = ':' then [] else c :: untilColons (d :: rest)

/-- What follows the last pair of colons. -/
def lastSegment (cs : List Char) : List Char :=
  (untilColons cs.reverse).reverse

/-- The part of a name before its first angle bracket. -/
def beforeAngle (cs : List Char) : List Char :=
  cs.takeWhile (· ≠ '<')

/-- The bare name of a full name: the last path segment before any arguments. -/
def bareName (name : String) : String :=
  String.ofList (lastSegment (beforeAngle name.toList))

/-- The bare name of a type. -/
def shortName (t : EventType) : String :=
  bareName t.name

/-- The inspection text. The identity is not shown. -/
def inspect (t : EventType) : String :=
  Text.record "EventTypeInfo" [("type_id", "TypeId(_)"), ("name", Text.quoted t.name),
    ("is_abstract", Text.boolean t.isAbstract)]

end EventType

end EventWiring
