import EventWiring.Scenario.Session
import EventWiring.Scenario.View

/-! Answering requests. A request is answered from the names of the session, in
the order in which the request gives them, so the first name that is missing or
stands for nothing is the fault. What was done before a fault stays done. -/
namespace EventWiring.Scenario

/-- How one callback is run on an event. -/
abbrev Invoke := Callback Action → Event → World → World

/-- A request that may fail, in a changing world. -/
abbrev Play := ExceptT Fault (StateM World)

namespace Play

/-- Changes the session. -/
def session (f : Session → Session) : Play Unit :=
  modify fun w => (f w.1, w.2)

/-- Changes the buses. -/
def system (f : System (Callback Action) → System (Callback Action)) : Play Unit :=
  modify fun w => (w.1, f w.2)

/-- Changes the buses and gives a value. -/
def call {α : Type} (f : System (Callback Action) → System (Callback Action) × α) : Play α := do
  let w ← get
  let (s, a) := f w.2
  set ((w.1, s) : World)
  pure a

/-- The value filed under a name that the request gives. -/
def find {α : Type} (kind field : String) (table : Session → Directory α)
    (name : Option String) : Play α := do
  let name ← required field name
  named (kind ++ " ") (table (← get).1) name

/-- A bus by name. -/
def bus (name : Option String) : Play BusId := find "bus" "bus" Session.buses name

/-- A handle by name. -/
def handle (name : Option String) : Play BindingHandle :=
  find "handle" "handle" Session.handles name

/-- The type of an event kind by name. -/
def kind (fx : Fixtures) (name : Option String) : Play EventKind := do
  fx.kind (← required "event" name)

/-- The number of live subscriptions on a bus. -/
def totalOf (bus : BusId) : Play (String × Json) := do
  pure ("total", .ofNat ((← get).2.total bus))

/-- The inspection text of a bus. -/
def inspected (bus : BusId) : Play (String × Json) := do
  pure ("debug", .string ((((← get).2.bus? bus).map Bus.inspect).getD ""))

/-- Files a bus under a name. -/
def nameBus (name : String) (bus : BusId) : Play Unit :=
  session fun s => { s with buses := s.buses.put name bus }

/-- Files a handle under a name. -/
def nameHandle (name : String) (h : BindingHandle) : Play Unit :=
  session fun s => { s with handles := s.handles.put name h }

/-- Files a token under a name. -/
def nameToken (name : String) (t : Token) : Play Unit :=
  session fun s => { s with tokens := s.tokens.put name t }

/-- Takes a token by name out of the session. -/
def takeToken (name : Option String) : Play Token := do
  let t ← find "token" "token" Session.tokens name
  session fun s => { s with tokens := s.tokens.erase (name.getD "") }
  pure t

/-- Makes a target and gives it to be filed. -/
def share (n : Node) : Play (Shared Node) := do
  let w ← get
  let (s, t) := w.1.share n
  set ((s, w.2) : World)
  pure t

/-- Changes the shared binders along with the buses and gives a value. -/
def process {α : Type}
    (f : Process (fun _ : String => Node) Action → Process (fun _ : String => Node) Action × α) :
    Play α := do
  let w ← get
  let (p, a) := f ⟨w.1.shared, w.2⟩
  set (({ w.1 with shared := p.binders }, p.system) : World)
  pure a

end Play

/-- The configuration of a new bus. -/
def BusSetup.config : BusSetup → Except Fault BusConfig
  | plain => .ok .default
  | decoded v =>
    match BusConfig.ofJson v with
    | .ok c => .ok c
    | .error e => .error (.data e)
  | settings list =>
    .ok (list.foldl (fun c s =>
      if s.1 then { c with logging := s.2 } else { c with warnUnhandled := s.2 }) .default)

/-! ### Single requests -/

/-- Subscribes a script. A typed subscription takes events of one type only. -/
def subscribe (fx : Fixtures) (typed : Bool) (bus id event : Option String)
    (script : Script Op) : Play Json := do
  let bus ← Play.bus bus
  let id ← required "id" id
  let event ← required "event" event
  let type ← if typed then (fx.kind event).map fun k => .concrete k.type else fx.type event
  let scripts := (← get).1.scripts
  let play (e : Event) : Action := .play "" (script.tag.getD id) scripts.length (some e)
  let callback : Callback Action :=
    if typed then .typed type play else ⟨none, fun e => some (play e)⟩
  Play.session fun s => { s with scripts := scripts ++ [⟨script.ops, script.max, 0⟩] }
  let key ← Play.call fun s => s.keyFor type
  let token ← Play.call fun s => s.subscribe bus key callback
  Play.nameToken id token
  pure (.ofEntries [("debug", .string token.inspect), ← Play.totalOf bus])

/-- The view of a key. -/
def keyView (k : EventKey) (registry : KeyRegistry) : Json :=
  .ofEntries [("debug", .string k.inspect), ("id", .ofNat k.id), ("name", .string k.name),
    ("short", .string k.type.shortName), ("same", .bool true), ("len", .ofNat registry.size),
    ("empty", .bool (registry.size == 0))]

/-- A target of a class. Only some classes hold a bus; one that is given none
holds a bus of its own. -/
def newMember (fx : Fixtures) (id className : String) (bus : Option String) : Play Json := do
  let c ← named "class " fx.classes className
  let given ← match bus with
    | some b => (Play.bus (some b)).map some
    | none => pure none
  let held ← if c.holdsBus then
      match given with
      | some b => pure (some b)
      | none => (Play.call fun s => s.openBus .default).map some
    else pure none
  let target ← Play.share ⟨id, c.depth, held⟩
  Play.session fun s => { s with members := s.members.put id ⟨className, target⟩ }
  pure (.object [])

/-- Resolves a model and keeps its binder. -/
def newBinder (fx : Fixtures) (id : Option String) (model : ModelSpec Op)
    (catalog : Option (List String)) (debug : Bool) : Play Json := do
  let id ← required "id" id
  let (m, scripts) ← (ModelSpec.build fx model).run (← get).1.scripts
  let catalog ← match catalog with
    | some keys => (fx.catalog keys).map some
    | none => pure none
  Play.session fun s => { s with scripts }
  let (handlers, log) := m.resolveLogged catalog
  Play.system fun s => s.report log
  match handlers with
  | .error e => throw (.unresolved e)
  | .ok hs =>
    let b : EventBinder Node Action := ⟨m.name, hs⟩
    Play.session fun s => { s with binders := s.binders.put id b }
    pure (.ofEntries (binderEntries b ++ if debug then [("debug", .string b.inspect)] else []))

/-- Binds a target. A target of a class is bound by the shared binder of its
class, a chain by the binder that the request names. -/
def bindTarget (fx : Fixtures) (bus target binder handle : Option String) : Play Json := do
  let bus ← Play.bus bus
  let target ← required "target" target
  let h ← match (← get).1.members.find? target with
    | some m => do
      let c ← named "class " fx.classes m.className
      match ← Play.process fun p => p.bindTarget m.className c.model bus m.target with
      | .error e => throw (.unresolved e)
      | .ok h => pure h
    | none => do
      let t ← named "target " (← get).1.chains target
      let b ← Play.find "binder" "binder" Session.binders binder
      Play.call fun s => s.bind bus b t
  Play.nameHandle (handle.getD "") h
  pure (.ofEntries (handleEntries h ++ [← Play.totalOf bus]))

/-- Requests a shared binder twice and resolves the class anew once. The number
of times that the model was used is part of the answer, also of a failure. -/
def requestTwice (fx : Fixtures) (className : Option String) : Play Json := do
  let name ← required "class" className
  let c ← named "class " fx.classes name
  let uses (n : Nat) : String × Json := ("model_calls", .ofNat (if c.counted then n else 0))
  let first ← Play.process fun p => p.shared name c.model
  let used := if first.consulted then 1 else 0
  match first.result with
  | .error e => pure (.ofEntries ((Fault.unresolved e).entries ++ [uses used]))
  | .ok one =>
    let second ← Play.process fun p => p.shared name c.model
    let used := used + if second.consulted then 1 else 0
    let (anew, log) := c.model.resolveLogged none
    Play.system fun s => s.report log
    match second.result, anew with
    | .ok two, .ok hs =>
      let fresh : EventBinder Node Action := ⟨c.model.name, hs⟩
      pure (.ofEntries [("binder", .ofEntries (binderEntries one.binder)),
        ("same", .bool (one.serial == two.serial)),
        ("fresh", .bool (one.binder.inspect == fresh.inspect)), uses (used + 1)])
    | .error e, _ => pure (.ofEntries ((Fault.unresolved e).entries ++ [uses used]))
    | _, .error e => pure (.ofEntries ((Fault.unresolved e).entries ++ [uses (used + 1)]))

/-- The target of a name, chains first. -/
def anyTarget (target : Option String) : Play (Shared Node) := do
  let name ← required "target" target
  match (← get).1.chains.find? name with
  | some t => pure t
  | none => (named "target " (← get).1.members name).map Member.target

/-- Answers a request. -/
def answer (fx : Fixtures) (invoke : Invoke) : Op → Play Json
  | .openBus id setup => do
    let config ← setup.config
    let bus ← Play.call fun s => s.openBus config
    Play.nameBus (id.getD "") bus
    pure (.ofEntries [← Play.inspected bus])
  | .cloneBus bus id => do
    let bus ← Play.bus bus
    Play.nameBus (← required "id" id) bus
    pure (.object [])
  | .dropBus bus => do
    let name ← required "bus" bus
    let known := ((← get).1.buses.find? name).isSome
    Play.session fun s => { s with buses := s.buses.erase name }
    pure (.ofEntries [("dropped", .bool known)])
  | .busInfo bus => do
    let bus ← Play.bus bus
    pure (.ofEntries [← Play.inspected bus, ← Play.totalOf bus])
  | .subscribe typed bus id event script => subscribe fx typed bus id event script
  | .publish _ bus event payload => do
    let bus ← Play.bus bus
    let event ← (← fx.anyKind (← required "event" event)).make payload
    modify (publish invoke bus event)
    pure (.ofEntries [← Play.totalOf bus])
  | .unsubscribeAll bus event => do
    let bus ← Play.bus bus
    let k ← Play.kind fx event
    Play.system fun s => s.unsubscribeAll bus (.concrete k.type)
    pure (.ofEntries [← Play.totalOf bus])
  | .clear bus => do
    let bus ← Play.bus bus
    Play.system fun s => s.clear bus
    pure (.ofEntries [← Play.totalOf bus])
  | .count bus event => do
    let bus ← Play.bus bus
    let k ← Play.kind fx event
    let n ← Play.call fun s => s.count bus (.concrete k.type)
    pure (.ofEntries [("count", .ofNat n), ← Play.totalOf bus])
  | .key event => do
    let k ← Play.kind fx event
    let key ← Play.call fun s => s.keyFor (.concrete k.type)
    pure (keyView key (← get).2.registry)
  | .registered event => do
    let name ← required "event" event
    let type ← if name = Fixtures.baseKey then pure .base
      else (fx.anyKind name).map fun k => .concrete k.type
    let id := match (← get).2.registry.get? type with
      | some key => .ofNat key.id
      | none => .null
    pure (.ofEntries [("id", id), ("name", .string type.name)])
  | .remove token => do
    let t ← Play.find "token" "token" Session.tokens token
    let t ← Play.call fun s => s.remove t
    Play.nameToken (token.getD "") t
    pure (tokenView t)
  | .token token => do
    pure (tokenView (← Play.find "token" "token" Session.tokens token))
  | .dropToken token => do
    pure (tokenView (← Play.takeToken token))
  | .handle id => do
    Play.nameHandle (← required "id" id) .empty
    pure (.ofEntries (handleEntries .empty))
  | .push token handle => do
    let t ← Play.takeToken token
    let h := (← Play.handle handle).push t
    Play.nameHandle (handle.getD "") h
    pure (.ofEntries (handleEntries h))
  | .handleInfo handle => do
    let h ← Play.handle handle
    pure (.ofEntries (handleEntries h ++ [("debug", .string h.inspect)]))
  | .unbind handle => do
    let h ← Play.handle handle
    let h ← Play.call fun s => s.unbind h
    Play.nameHandle (handle.getD "") h
    pure (.ofEntries (handleEntries h))
  | .dropHandle handle => do
    let name ← required "handle" handle
    let known := ((← get).1.handles.find? name).isSome
    Play.session fun s => { s with handles := s.handles.erase name }
    pure (.ofEntries [("dropped", .bool known)])
  | .chain id depth => do
    let id ← required "id" id
    let target ← Play.share ⟨id, depth, none⟩
    Play.session fun s => { s with chains := s.chains.put id target }
    pure (.object [])
  | .member id className bus => do
    newMember fx (← required "id" id) className bus
  | .strong target => do
    let t ← anyTarget target
    pure (.ofEntries [("strong", .ofNat (1 + (← get).holders t.id))])
  | .binder id model catalog debug => newBinder fx id model catalog debug
  | .bind bus target binder handle => bindTarget fx bus target binder handle
  | .invoke binder target index event payload => do
    let b ← Play.find "binder" "binder" Session.binders binder
    let t ← Play.find "target" "target" Session.chains target
    let n ← required "index" index
    let event ← (← Play.kind fx event).make payload
    match b.descriptors[n]? with
    | none => throw (.noSuch s!"descriptor {n}")
    | some d =>
      modify (invoke ⟨none, d.invoker t.value⟩ event)
      pure (.ofEntries [("method", .string d.signature.name)])
  | .shared className => requestTwice fx className
  | .unknown none => throw (.badInput "op")
  | .unknown (some name) => throw (.badInput ("op " ++ name))

/-- Performs a request, and then drops the buses that nothing holds any more. -/
def perform (fx : Fixtures) (invoke : Invoke) (op : Op) (w : World) : World × Outcome :=
  let (outcome, w) := (answer fx invoke op).run w
  (w.sweep, outcome)

/-! ### Handlers -/

/-- How far the requests of handlers may go. -/
structure Limits where
  /-- How deep they may nest. -/
  depth : Nat
  /-- How many there may be in a session. -/
  requests : Nat

/-- Makes the requests of a handler that itself runs at a depth, as far as the
limits allow. -/
def makeRequests (fx : Fixtures) (limits : Limits) (depth : Nat) (invoke : Invoke) :
    List Op → World → World
  | [], w => w
  | op :: rest, w =>
    if depth < limits.depth && w.1.nested < limits.requests then
      let (w, outcome) := perform fx invoke op ({ w.1 with nested := w.1.nested + 1 }, w.2)
      makeRequests fx limits depth invoke rest (w.1.note (.answered op.name outcome), w.2)
    else makeRequests fx limits depth invoke rest (w.1.note (.skipped op.name), w.2)

/-- Takes an action at a depth. `invoke` runs callbacks one request deeper or at
the same depth. -/
def act (fx : Fixtures) (limits : Limits) (depth : Nat) (deeper same : Invoke) :
    Action → World → World
  | .play label tag id event, w =>
    let (s, ops) := (w.1.note (.ran label tag event)).runScript id
    makeRequests fx limits depth deeper ops (s, w.2)
  | .record label tag event, w => (w.1.note (.ran label tag event), w.2)
  | .relay label tag event bus kind, w =>
    let w : World := (w.1.note (.ran label tag (some event)), w.2)
    match bus, kind.make event.payload with
    | some bus, .ok e => World.sweep (publish same bus e w)
    | _, _ => w

/-- Runs a callback at a depth. The first argument bounds how far publishes nest. -/
def invokeAt (fx : Fixtures) (limits : Limits) : Nat → Nat → Invoke
  | 0, _, _, _, w => w
  | n + 1, depth, callback, event, w =>
    match callback.run event with
    | none => w
    | some action =>
      act fx limits depth (invokeAt fx limits n (depth + 1)) (invokeAt fx limits n depth)
        action w

/-- A bound on the nesting of publishes. Requests nest as deep as the limits say;
between two of them a relay may publish once, since what it publishes is only
recorded by relays. -/
def Limits.nesting (l : Limits) : Nat := 2 * (l.depth + 1)

/-- Runs a callback of a step of a session. -/
def invoke (fx : Fixtures) (limits : Limits) : Invoke :=
  invokeAt fx limits limits.nesting 0

/-! ### Sessions -/

/-- The answer to one step of a session: the result, what handlers did, and what
was logged. -/
structure StepAnswer where
  result : Outcome
  calls : List Call
  log : List LogEntry

/-- The JSON form of an answer. Empty lists are left out. -/
def StepAnswer.toJson (a : StepAnswer) (withLog : Bool) : Json :=
  .ofEntries ([("r", a.result.toJson)] ++
    (if a.calls.isEmpty then [] else [("calls", .array (a.calls.map Call.toJson))]) ++
    (if withLog && !a.log.isEmpty then [("log", .array (a.log.map LogEntry.toJson))] else []))

/-- Plays the steps of a session, each after the one before. -/
def playSteps (fx : Fixtures) (limits : Limits) : List Op → World → List StepAnswer
  | [], _ => []
  | op :: rest, w =>
    let (w, result) := perform fx (invoke fx limits) op w
    ⟨result, w.1.calls, w.2.log⟩ ::
      playSteps fx limits rest ({ w.1 with calls := [] }, { w.2 with log := [] })

/-- Plays a session. -/
def play (fx : Fixtures) (limits : Limits) (ops : List Op) : List StepAnswer :=
  playSteps fx limits ops (.new fx)

end EventWiring.Scenario
