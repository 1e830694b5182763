import EventWiring.Handler.Binder

/-! The JSON views of models, handlers, tokens and handles. -/
namespace EventWiring.Scenario

variable {T A : Type}

/-- A string, or null. -/
def optionalString : Option String → Json
  | none => .null
  | some s => .string s

/-- An array of strings. -/
def strings (ss : List String) : Json := .array (ss.map .string)

/-- A parameter type. -/
def paramView (p : ParamType) : Json :=
  .ofEntries [("type", .string p.typeName),
    ("event", optionalString (p.eventType?.map EventType.name))]

/-- An entry of an event list. -/
def refView : EventRef → Json
  | .type t => .ofEntries [("type", .string t.name)]
  | .named n => .ofEntries [("named", .string n)]

/-- The mark of a handler, or null. -/
def annotationView : Option Annotation → Json
  | none => .null
  | some a =>
    .ofEntries [("explicit", .bool a.isExplicit), ("events", .array (a.events.map refView))]

/-- A declared method. -/
def methodView (d : MethodDecl T A) : Json :=
  .ofEntries [("name", .string d.name), ("signature", .string d.signature.text),
    ("declared_by", .string d.declaredBy), ("params", .array (d.params.map paramView)),
    ("is_handler", .bool d.isHandler), ("annotation", annotationView d.annotation),
    ("has_invoker", .bool d.invoker.isSome)]

/-- The layers of a model, each with the name of the next. -/
def lineageView : List (Layer T A) → List Json
  | [] => []
  | l :: rest =>
    .ofEntries [("name", .string l.name), ("declared", .ofNat l.declared.length),
      ("parent", optionalString (rest.head?.map Layer.name))] :: lineageView rest

/-- The entries of a model's view. -/
def modelEntries (m : TypeModel T A) : List (String × Json) :=
  [("name", .string m.name), ("lineage", .array (lineageView m.lineage)),
    ("inheritable", .array (m.inheritable.map methodView))]

/-- A resolved handler. -/
def descriptorView (d : HandlerDescriptor T A) : Json :=
  .ofEntries [("method", .string d.signature.name), ("signature", .string d.signature.text),
    ("params", strings d.signature.params), ("declared_by", .string d.declaredBy),
    ("events", .array (d.eventTypes.map fun t => strings [t.name, t.shortName]))]

/-- The entries of a binder's view. -/
def binderEntries (b : EventBinder T A) : List (String × Json) :=
  [("target", .string b.target), ("descriptors", .array (b.descriptors.map descriptorView))]

/-- A token. -/
def tokenView (t : Token) : Json :=
  .ofEntries [("removed", .bool t.removed), ("debug", .string t.inspect),
    ("key", .string t.key.name)]

/-- The entries of a handle's view. -/
def handleEntries (h : BindingHandle) : List (String × Json) :=
  [("len", .ofNat h.tokens.length), ("empty", .bool h.isEmpty), ("state", .string h.state),
    ("tokens", .array (h.tokens.map fun t => .array [.string t.key.name, .bool t.removed]))]

end EventWiring.Scenario
