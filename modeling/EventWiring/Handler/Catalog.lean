import EventWiring.Directory
import EventWiring.Event.Type

/-! A catalog finds event types by name: by full name, or by bare name as long
as only one type has it. -/
namespace EventWiring

/-- Event types by full name and by bare name. -/
structure EventCatalog where
  byName : Directory EventType
  byBareName : Directory (List EventType)

/-- Why a name finds no type. -/
inductive LookupFailure where
  | notFound
  | ambiguous
deriving DecidableEq, Repr

namespace EventCatalog

/-- The catalog of no types. -/
def empty : EventCatalog := ⟨.empty, .empty⟩

/-- The types filed under a bare name. -/
def bareNamed (c : EventCatalog) (name : String) : List EventType :=
  (c.byBareName.find? name).getD []

/-- Adds a type. A full name that was known already is not filed again under its
bare name. -/
def insert (c : EventCatalog) (t : EventType) : EventCatalog :=
  let byName := c.byName.put t.name t
  if (c.byName.find? t.name).isSome then { c with byName }
  else ⟨byName, c.byBareName.put t.shortName (c.bareNamed t.shortName ++ [t])⟩

/-- The catalog of a list of types, added in order. -/
def ofTypes (types : List EventType) : EventCatalog :=
  types.foldl insert empty

/-- The type of a name. A full name comes before any bare name. -/
def lookup (c : EventCatalog) (name : String) : Except LookupFailure EventType :=
  match c.byName.find? name with
  | some t => .ok t
  | none =>
    match c.bareNamed name with
    | [] => .error .notFound
    | [t] => .ok t
    | _ :: _ :: _ => .error .ambiguous

/-- The number of full names. -/
def size (c : EventCatalog) : Nat := c.byName.size

/-- Whether no type was added. -/
def isEmpty (c : EventCatalog) : Bool := c.size == 0

end EventCatalog

end EventWiring
