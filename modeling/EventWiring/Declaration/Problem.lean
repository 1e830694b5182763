import EventWiring.Source.Reading

/-! What can be wrong with a declaration. -/
namespace EventWiring

open Source

/-- Why a declaration is refused. Where a method is at fault, it is named. -/
inductive Problem where
  | source (error : SourceError)
  | duplicateOption (name : String)
  | unknownHandlerOption (name : String)
  | unknownBinderOption (name : String)
  /-- A parent type without the field that holds the parent. -/
  | parentWithoutField
  | fieldWithoutParent
  | repeatedMarker (method : String)
  /-- A marker that is written as a name with a value. -/
  | markerWithValue
  | genericHandler (method : String)
  | asyncHandler (method : String)
  /-- A handler that does not take its target by shared reference. -/
  | unsharedTarget (method : String)
  | tooManyParams (method : String) (count : Nat)
  /-- A handler with neither a parameter nor a list of events. -/
  | noEvents (method : String)
  | unnamedType (method : String)
  /-- A handler that does not take its event by shared reference. -/
  | unsharedEvent (method : String)
  | traitBlock
  | genericBlock
  /-- A marker outside a block whose markers are read. -/
  | strayMarker
deriving DecidableEq, Repr

namespace Problem

/-- The beginning of what is said about a handler. -/
def aboutHandler (method : String) : String :=
  s!"#[event_handler] method \x60{method}\x60"

/-- What is said about a problem. -/
def message : Problem → String
  | source e => e.message
  | duplicateOption name => s!"duplicate \x60{name}\x60 option"
  | unknownHandlerOption name =>
    s!"unknown #[event_handler] option \x60{name}\x60" ++
      "\nhint: the only option is \x60handles = [EventA, EventB]\x60"
  | unknownBinderOption name =>
    s!"unknown #[event_binder] option \x60{name}\x60" ++
      "\nhint: expected \x60extends = Parent, via = field\x60"
  | parentWithoutField =>
    "\x60extends\x60 needs \x60via = field\x60 naming the field that holds the parent"
  | fieldWithoutParent => "\x60via\x60 is only meaningful together with \x60extends\x60"
  | repeatedMarker method =>
    s!"method \x60{method}\x60 has more than one #[event_handler] marker" ++
      "\nhint: list every event in a single \x60handles = [...]\x60"
  | markerWithValue => "expected #[event_handler] or #[event_handler(handles = [...])]"
  | genericHandler method => aboutHandler method ++ " cannot be generic"
  | asyncHandler method =>
    aboutHandler method ++ " cannot be async" ++
      "\nhint: events are delivered synchronously on the publishing thread"
  | unsharedTarget method => aboutHandler method ++ " must take \x60&self\x60"
  | tooManyParams method count =>
    aboutHandler method ++
      s!" takes {count} parameters; handlers take at most one event parameter"
  | noEvents method =>
    aboutHandler method ++ " has no parameter, so it must list the events it handles" ++
      "\nhint: use #[event_handler(handles = [SomeEvent])]"
  | unnamedType method =>
    aboutHandler method ++ " cannot take \x60impl Trait\x60" ++
      "\nhint: name the event type, or take \x60&dyn Event\x60"
  | unsharedEvent method =>
    aboutHandler method ++
      " must take its event by shared reference, e.g. \x60event: &SomeEvent\x60"
  | traitBlock =>
    "#[event_binder] must be placed on an inherent impl block, not a trait impl"
  | genericBlock =>
    "#[event_binder] does not support generic impl blocks\nhint: bind a concrete type"
  | strayMarker =>
    "#[event_handler] only has an effect inside an #[event_binder] impl block" ++
      "\nhint: add #[event_binder] to the enclosing impl"

end Problem

end EventWiring
