import EventWiring.Declaration.Problem
import EventWiring.Directory
import EventWiring.Handler.ResolveError
import EventWiring.Json.Decode

/-! What a request can be answered with in place of a result. -/
namespace EventWiring.Scenario

/-- Why a request fails. -/
inductive Fault where
  /-- A field of the request is missing or of the wrong kind. -/
  | badInput (field : String)
  /-- Nothing has the name that was given. -/
  | noSuch (what : String)
  /-- JSON does not fit the type it is read as. -/
  | data (error : Json.DecodeError)
  /-- A model does not resolve. -/
  | unresolved (error : ResolveError)
  /-- A declaration is refused, or its source cannot be read. -/
  | refused (problem : Problem)
deriving DecidableEq, Repr

namespace Fault

/-- The name of the kind of a handler's fault. -/
def handlerKind : HandlerFault → String
  | .arity _ => "Arity"
  | .missingEventList => "MissingEventList"
  | .notAnEvent _ => "NotAnEvent"
  | .abstractParameter _ => "AbstractParameter"
  | .abstractEvent _ => "AbstractEvent"
  | .notAssignable _ _ => "NotAssignable"
  | .unknownEventType _ => "UnknownEventType"
  | .ambiguousEventType _ => "AmbiguousEventType"
  | .missingInvoker => "MissingInvoker"

/-- The entries of a failure's answer. -/
def entries : Fault → List (String × Json)
  | badInput field => [("error", .string "BadInput"), ("message", .string field)]
  | noSuch what => [("error", .string "NoSuch"), ("message", .string what)]
  | data .malformed => [("error", .string "Syntax")]
  | data error =>
    ("error", .string "Data") ::
      (match error.message? with
      | some m => [("message", .string m)]
      | none => [])
  | unresolved e =>
    [("error", .string (handlerKind e.fault)), ("message", .string e.message),
      ("method", .string e.method)]
  | refused (.source _) => [("error", .string "SyntaxError")]
  | refused problem =>
    [("error", .string "MacroError"), ("message", .string problem.message),
      ("messages", .array [.string problem.message])]

/-- The answer of a failure. -/
def toJson (f : Fault) : Json := .ofEntries f.entries

end Fault

/-- What a request gives, or why it fails. -/
abbrev Outcome := Except Fault Json

/-- The answer of an outcome. -/
def Outcome.toJson : Outcome → Json
  | .ok v => v
  | .error f => f.toJson

/-- A field that must be there. -/
def required {α : Type} (name : String) : Option α → Except Fault α
  | some v => .ok v
  | none => .error (.badInput name)

/-- The value filed under a name, or the fault of naming nothing. -/
def named {α : Type} (kind : String) (table : Directory α) (name : String) :
    Except Fault α :=
  match table.find? name with
  | some v => .ok v
  | none => .error (.noSuch (kind ++ name))

end EventWiring.Scenario
