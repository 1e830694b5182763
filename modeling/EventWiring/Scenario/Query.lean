import EventWiring.Scenario.Declare
import EventWiring.Scenario.View

/-! Questions that need no session: about event types, catalogs, configurations,
metadata and models. -/
namespace EventWiring.Scenario

/-! ### Event types -/

/-- The view of an event type. -/
def typeView (t : EventType) : Json :=
  .ofEntries [("name", .string t.name), ("short", .string t.shortName),
    ("abstract", .bool t.isAbstract), ("debug", .string t.inspect)]

/-- One of the two types of a comparison. -/
def sideType (fx : Fixtures) (side : String) (key : Option String) : Except Fault EventType := do
  let key ← required side key
  match fx.type key with
  | .ok t => .ok t
  | .error _ => .error (.noSuch side)

/-- Compares two event types. -/
def compareTypes (fx : Fixtures) (a b : Option String) : Outcome := do
  let a ← sideType fx "a" a
  let b ← sideType fx "b" b
  .ok (.ofEntries [("a", typeView a), ("b", typeView b), ("equal", .bool (a = b)),
    ("a_to_b", .bool (a.isAssignableTo b)), ("b_to_a", .bool (b.isAssignableTo a))])

/-! ### Catalogs -/

/-- One use of a catalog. -/
inductive CatalogStep where
  | register (key : String)
  | insert (key : String)
  | lookup (name : String)
  | unknown

/-- What a lookup found. -/
def foundView : Except LookupFailure EventType → Json
  | .ok t => .ofEntries [("found", .string t.name)]
  | .error .notFound => .ofEntries [("error", .string "NotFound")]
  | .error .ambiguous => .ofEntries [("error", .string "Ambiguous")]

/-- Takes a step: the catalog after it, and what it found. -/
def CatalogStep.take (fx : Fixtures) (c : EventCatalog) :
    CatalogStep → Except Fault (EventCatalog × Json)
  | .register key => do
    if key = Fixtures.baseKey then throw (.badInput "register base")
    let t ← fx.typeOr "" key
    .ok (c.insert t, .null)
  | .insert key => do
    let t ← fx.typeOr "" key
    .ok (c.insert t, .null)
  | .lookup name => .ok (c, foundView (c.lookup name))
  | .unknown => .error (.badInput "lookup")

/-- The answers to the steps on a catalog. -/
def catalogAnswers (fx : Fixtures) (c : EventCatalog) :
    List CatalogStep → Except Fault (List Json)
  | [] => .ok []
  | step :: rest => do
    let (c, r) ← step.take fx c
    let answer := Json.ofEntries [("r", r), ("len", .ofNat c.size), ("empty", .bool c.isEmpty)]
    .ok (answer :: (← catalogAnswers fx c rest))

/-- Uses a catalog step by step. -/
def useCatalog (fx : Fixtures) (steps : Option (List CatalogStep)) : Outcome := do
  let steps ← required "steps" steps
  .ok (.ofEntries [("steps", .array (← catalogAnswers fx .empty steps))])

/-! ### Configurations -/

/-- JSON as a text or as a value. -/
inductive JsonSource where
  | text (text : String)
  | value (value : Json)

/-- A decoded value, or the fault of its JSON. -/
def decoded {α : Type} : Except Json.DecodeError α → Except Fault α
  | .ok v => .ok v
  | .error e => .error (.data e)

/-- Reads the configuration of a bus. -/
def readConfig (source : JsonSource) : Outcome := do
  let c ← decoded (match source with
    | .text t => BusConfig.ofText t
    | .value v => BusConfig.ofJson v)
  let bus : Bus Unit := .new c
  .ok (.ofEntries [("config", c.toJson), ("debug", .string bus.inspect)])

/-! ### Metadata -/

/-- One change of metadata. -/
inductive MetadataStep where
  | correlation (uuid : String)
  | causation (uuid : String)
  | entry (key : String) (value : Json)
  | unknown

/-- An identifier from its text. -/
def uuidOf (text : String) : Except Fault Uuid :=
  match Uuid.parse? text with
  | some u => .ok u
  | none => .error (.data .invalidText)

/-- Makes a change. -/
def MetadataStep.take (m : Metadata) : MetadataStep → Except Fault Metadata
  | .correlation uuid => do .ok (m.withCorrelation (← uuidOf uuid))
  | .causation uuid => do .ok (m.withCausation (← uuidOf uuid))
  | .entry key value => .ok (m.withEntry key value)
  | .unknown => .error (.badInput "key")

/-- Where metadata comes from. -/
inductive MetadataSource where
  /-- Metadata of a new event of some name. -/
  | new (name : String)
  | json (source : JsonSource)

/-- An identifier of version 4, for metadata whose identifier is not shown. -/
def maskedUuid : Uuid := ⟨BitVec.ofNat 128 (Nat.pow 2 78)⟩

/-- A point in time that is not shown. -/
def maskedTime : Timestamp := ⟨0, 0, 0⟩

/-- Metadata with the answer that shows it. What is made anew for each event is
masked. -/
def readMetadata (source : MetadataSource) (steps : List MetadataStep) : Outcome := do
  let m ← match source with
    | .new name => .ok (Metadata.new maskedUuid maskedTime name)
    | .json (.text t) => decoded (Metadata.ofText t)
    | .json (.value v) => decoded (Metadata.ofJson v)
  let m ← steps.foldlM MetadataStep.take m
  match source, m.toJson with
  | .new _, .object entries =>
    .ok (.object (Json.put "id" (.ofNat m.id.version) (Json.put "timestamp" .null entries)))
  | _, answer => .ok answer

/-! ### Models -/

/-- The view of a described model. -/
def viewModel (fx : Fixtures) (model : ModelSpec Op) (debug : Bool) : Outcome := do
  let (m, _) ← (ModelSpec.build fx model).run []
  .ok (.ofEntries (modelEntries m ++ if debug then [("debug", .string m.inspect)] else []))

/-- The view of the model of a class, without inspection text. -/
def viewClass (fx : Fixtures) (className : String) (debug : Bool) : Outcome := do
  let c ← named "" fx.classes className
  .ok (.ofEntries (modelEntries c.model ++ if debug then [("debug", .string "")] else []))

/-- Resolves a described model. The log is part of the answer, also of a failure. -/
def resolveModel (fx : Fixtures) (model : ModelSpec Op) (catalog : Option (List String))
    (debug : Bool) : Outcome := do
  let (m, _) ← (ModelSpec.build fx model).run []
  let catalog ← match catalog with
    | some keys => (fx.catalog keys).map some
    | none => .ok none
  let (handlers, logged) := m.resolveLogged catalog
  let log : String × Json := ("log", .array (logged.map LogEntry.toJson))
  match handlers with
  | .error e => .ok (.ofEntries ((Fault.unresolved e).entries ++ [log]))
  | .ok hs =>
    let shown := Text.bracketed (hs.map HandlerDescriptor.inspect)
    .ok (.ofEntries ([("descriptors", .array (hs.map descriptorView)), log] ++
      if debug then [("debug", .string shown)] else []))

end EventWiring.Scenario
