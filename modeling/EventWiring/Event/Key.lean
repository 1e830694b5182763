import EventWiring.Event.Type

/-! Event keys. Subscriptions are filed under keys, and the registry gives each
event type one key on first use. Keys are numbered in the order they are made,
and none is ever replaced. -/
namespace EventWiring

/-- The key of one event type. -/
structure EventKey where
  id : Nat
  type : EventType
deriving DecidableEq, Repr

namespace EventKey

/-- The name of the key's type. -/
def name (k : EventKey) : String := k.type.name

/-- The inspection text. -/
def inspect (k : EventKey) : String :=
  Text.record "EventTypeKey" [("id", toString k.id), ("name", Text.quoted k.name)]

end EventKey

/-- The keys made so far, oldest first, and the number of the next one. -/
structure KeyRegistry where
  keys : List EventKey
  /-- The number of the next key. A machine word holds it, so fewer than `2 ^ 64` keys are
  assumed; here the count has no end. -/
  nextId : Nat
deriving Repr

namespace KeyRegistry

/-- The registry before any type was used. -/
def empty : KeyRegistry := ⟨[], 1⟩

/-- The key of a type, if one was made. -/
def get? (r : KeyRegistry) (t : EventType) : Option EventKey :=
  r.keys.find? (·.type = t)

/-- The number of keys. -/
def size (r : KeyRegistry) : Nat := r.keys.length

/-- The key that the next new type would receive. -/
def fresh (r : KeyRegistry) (t : EventType) : EventKey := ⟨r.nextId, t⟩

/-- The key of a type, made on first use. -/
def keyFor (r : KeyRegistry) (t : EventType) : KeyRegistry × EventKey :=
  match r.get? t with
  | some k => (r, k)
  | none => (⟨r.keys ++ [r.fresh t], r.nextId + 1⟩, r.fresh t)

/-- The registry after the keys of types were asked for, in order. -/
def withKeys (r : KeyRegistry) (types : List EventType) : KeyRegistry :=
  types.foldl (fun r t => (r.keyFor t).1) r

/-- The registry after types were used, in order, and none before them. -/
def ofTypes (types : List EventType) : KeyRegistry := empty.withKeys types

end KeyRegistry

end EventWiring
