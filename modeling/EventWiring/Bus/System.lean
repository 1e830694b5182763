import EventWiring.Bus.Config
import EventWiring.Bus.Table
import EventWiring.Event.Value
import EventWiring.Log

/-! Event buses. A system holds every bus together with the key registry and the
log that they share. Publishing runs the callbacks that were filed when it
began, so callbacks may change any table while they run. -/
namespace EventWiring

/-- One bus: its subscriber table and the number of its next subscription. -/
structure Bus (C : Type) where
  config : BusConfig
  table : SubscriberTable C
  /-- The number of the next subscription. A machine word holds it, so fewer than `2 ^ 64`
  subscriptions are assumed; here the count has no end. -/
  nextId : Nat

namespace Bus

variable {C : Type}

/-- A bus without subscriptions. -/
def new (config : BusConfig) : Bus C := ⟨config, .empty, 1⟩

/-- The inspection text. -/
def inspect (b : Bus C) : String :=
  Text.record "EventBus" [("event_types", toString b.table.size), ("config", b.config.inspect)]

end Bus

/-- The name of a bus within its system. -/
abbrev BusId := Nat

/-- The means to remove one subscription. -/
structure Token where
  bus : BusId
  key : EventKey
  id : Nat
  /-- Whether it was used. -/
  removed : Bool
  /-- Whether its use is logged. -/
  logs : Bool
deriving DecidableEq, Repr

/-- The inspection text. -/
def Token.inspect (t : Token) : String :=
  Text.record "SubscriptionToken" [("id", toString t.id), ("key", t.key.inspect),
    ("removed", Text.boolean t.removed)]

/-- A publish in progress, with the subscriptions it runs. -/
structure Dispatch (C : Type) where
  bus : BusId
  snapshot : List (Subscription C)

/-- All buses, the registry and the log. A dropped bus leaves an empty place, so
that names stay valid. -/
structure System (C : Type) where
  registry : KeyRegistry
  buses : List (Option (Bus C))
  running : List (Dispatch C)
  log : List LogEntry

namespace System

variable {C : Type}

/-- A system without buses. -/
def new (registry : KeyRegistry) : System C := ⟨registry, [], [], []⟩

/-- Appends to the log. -/
def report (s : System C) (entries : List LogEntry) : System C :=
  { s with log := s.log ++ entries }

/-- Appends to the log if a condition holds. -/
def reportIf (s : System C) (condition : Bool) (entry : LogEntry) : System C :=
  if condition then s.report [entry] else s

/-! ### Keys -/

/-- The key of a type, made and reported on first use. -/
def keyFor (s : System C) (t : EventType) : System C × EventKey :=
  match s.registry.get? t with
  | some key => (s, key)
  | none =>
    let (registry, key) := s.registry.keyFor t
    ({ s with registry }.report [.keyCreated key], key)

/-! ### Buses -/

/-- The bus of a name, unless it was dropped. -/
def bus? (s : System C) (id : BusId) : Option (Bus C) :=
  (s.buses[id]?).join

/-- Puts a bus in its place. -/
def putBus (s : System C) (id : BusId) (b : Bus C) : System C :=
  { s with buses := s.buses.set id (some b) }

/-- Opens a bus under a new name. -/
def openBus (s : System C) (config : BusConfig) : System C × BusId :=
  ({ s with buses := s.buses ++ [some (.new config)] }, s.buses.length)

/-- Drops a bus with its table. -/
def dropBus (s : System C) (id : BusId) : System C :=
  { s with buses := s.buses.set id none }

/-- Whether a bus logs what it does. -/
def logs (s : System C) (id : BusId) : Bool :=
  ((s.bus? id).map (·.config.logging)).getD false

/-- The live subscriptions of all types on a bus. -/
def total (s : System C) (id : BusId) : Nat :=
  ((s.bus? id).map (·.table.total)).getD 0

/-! ### Subscribing and removing -/

/-- Files a callback on a bus under the registry's key for the type of the given
key. On a dropped bus nothing is filed. -/
def subscribe (s : System C) (id : BusId) (key : EventKey) (callback : C) : System C × Token :=
  let (s, key) := s.keyFor key.type
  match s.bus? id with
  | none => (s, ⟨id, key, 0, true, false⟩)
  | some b =>
    let n := b.nextId
    let s := s.putBus id { b with table := b.table.file key ⟨n, callback⟩, nextId := n + 1 }
    (s.reportIf b.config.logging (.subscribed n key), ⟨id, key, n, false, b.config.logging⟩)

/-- Uses a token: its subscription goes, if it is still there. A used token does
nothing, and the bus may be gone already. -/
def remove (s : System C) (t : Token) : System C × Token :=
  if t.removed then (s, t)
  else
    let used := { t with removed := true }
    match s.bus? t.bus with
    | none => (s, used)
    | some b =>
      let s := s.putBus t.bus { b with table := b.table.remove t.key t.id }
      (s.reportIf t.logs (.removed t.id t.key), used)

/-- Removes every subscription to a type from a bus. -/
def unsubscribeAll (s : System C) (id : BusId) (t : EventType) : System C :=
  let (s, key) := s.keyFor t
  match s.bus? id with
  | none => s
  | some b =>
    (s.putBus id { b with table := b.table.dropKey key }).reportIf b.config.logging
      (.unsubscribedAll key.name)

/-- Removes every subscription from a bus. -/
def clear (s : System C) (id : BusId) : System C :=
  match s.bus? id with
  | none => s
  | some b => (s.putBus id { b with table := .empty }).reportIf b.config.logging .cleared

/-- The live subscriptions to a type on a bus. -/
def count (s : System C) (id : BusId) (t : EventType) : System C × Nat :=
  let (s, key) := s.keyFor t
  (s, ((s.bus? id).map fun b => (b.table.listFor key).length).getD 0)

/-! ### Publishing -/

/-- The subscriptions that an event published on a bus would run. A type without
a key has none. -/
def subscribersOf (s : System C) (id : BusId) (e : Event) : List (Subscription C) :=
  match s.bus? id, s.registry.get? e.eventType with
  | some b, some key => b.table.listFor key
  | _, _ => []

/-- Begins a publish: announces it and notes the subscriptions that it will run.
Without any it only warns, if the bus is to warn. -/
def beginPublish (s : System C) (id : BusId) (e : Event) : System C × List (Subscription C) :=
  let snapshot := s.subscribersOf id e
  let s := s.reportIf (s.logs id) (.publishing e.name (e.metadata.map (·.id)))
  if snapshot.isEmpty then
    let warns := ((s.bus? id).map (·.config.warnUnhandled)).getD false
    (s.reportIf warns (.unhandled e.name), [])
  else ({ s with running := ⟨id, snapshot⟩ :: s.running }, snapshot)

/-- Ends a publish that ran some callbacks. -/
def endPublish (s : System C) (id : BusId) (e : Event) (handlers : Nat) : System C :=
  ({ s with running := s.running.drop 1 }).reportIf (s.logs id) (.published e.name handlers)

end System

/-- Publishes an event. `invoke` runs one callback; it may change the world `W`
around the system and the system itself, other publishes included. -/
def publish {W C : Type} (invoke : C → Event → W × System C → W × System C)
    (id : BusId) (e : Event) (world : W × System C) : W × System C :=
  let (s, snapshot) := world.2.beginPublish id e
  if snapshot.isEmpty then (world.1, s)
  else
    let ran := snapshot.foldl (fun w sub => invoke sub.callback e w) (world.1, s)
    (ran.1, ran.2.endPublish id e snapshot.length)

end EventWiring
