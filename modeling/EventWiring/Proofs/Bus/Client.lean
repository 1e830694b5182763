import EventWiring.Handler.Binder

/-! A program that uses buses. It holds names of buses, tokens and handles, and
makes requests in any order; what it can learn from them is in the answers. The
callbacks that a publish invokes may do anything to the program, further
requests included: how they act is a parameter. -/
namespace EventWiring

/-- What a program holds, where a subscription is known by a `K`: names of buses,
several of which may stand for one bus, loose tokens, and the tokens of each
handle. A place is empty once its name was dropped or its token was moved into a
handle. -/
structure Holdings (K : Type) where
  buses : List (Option BusId)
  tokens : List (Option K)
  handles : List (List K)

namespace Holdings

variable {K : Type}

def empty : Holdings K := ⟨[], [], []⟩

def bus? (h : Holdings K) (bus : Nat) : Option BusId := (h.buses[bus]?).join

def token? (h : Holdings K) (token : Nat) : Option K := (h.tokens[token]?).join

/-- The token at a place of a handle. -/
def heldToken? (h : Holdings K) (handle place : Nat) : Option K :=
  (h.handles[handle]?).bind (·[place]?)

def addBus (h : Holdings K) (id : BusId) : Holdings K :=
  { h with buses := h.buses ++ [some id] }

/-- Whether a bus still has a name. -/
def names (h : Holdings K) (id : BusId) : Bool := h.buses.contains (some id)

def dropBus (h : Holdings K) (bus : Nat) : Holdings K :=
  { h with buses := h.buses.set bus none }

def addToken (h : Holdings K) (k : K) : Holdings K :=
  { h with tokens := h.tokens ++ [some k] }

def setToken (h : Holdings K) (token : Nat) (k : K) : Holdings K :=
  { h with tokens := h.tokens.set token (some k) }

def addHandle (h : Holdings K) (ks : List K) : Holdings K :=
  { h with handles := h.handles ++ [ks] }

def setHandle (h : Holdings K) (handle : Nat) (ks : List K) : Holdings K :=
  { h with handles := h.handles.set handle ks }

/-- Moves a loose token to the end of a handle. -/
def moveToken (h : Holdings K) (token handle : Nat) (k : K) (ks : List K) : Holdings K :=
  { h with tokens := h.tokens.set token none, handles := h.handles.set handle (ks ++ [k]) }

theorem names_iff {h : Holdings K} {id : BusId} : h.names id = true ↔ some id ∈ h.buses := by
  rw [names, List.contains_iff_mem]

end Holdings

/-- What a program asks of its buses, tokens and handles. These go by their
places among the ones that it holds. -/
inductive Request (A : Type) : Type 1 where
  | openBus (config : BusConfig)
  /-- A second name for a bus. -/
  | cloneBus (bus : Nat)
  /-- Drops a name. A bus goes with its last name. -/
  | dropBus (bus : Nat)
  /-- Subscribes a function of the events of one type. -/
  | subscribe (bus : Nat) (type : ConcreteType) (body : Event → A)
  | subscribeKey (bus : Nat) (key : EventKey) (callback : Callback A)
  | bind {T : Type} (bus : Nat) (binder : EventBinder T A) (target : Shared T)
  | remove (token : Nat)
  | openHandle
  /-- Moves a loose token into a handle. -/
  | push (token handle : Nat)
  /-- Uses a token where it stands in a handle. -/
  | removeHeld (handle place : Nat)
  | unbind (handle : Nat)
  | unsubscribeAll (bus : Nat) (type : ConcreteType)
  | clear (bus : Nat)
  | count (bus : Nat) (type : ConcreteType)
  | total (bus : Nat)
  /-- Publishes an event. Whether the program knows its type or not, the bus goes
  by the type that the event has. -/
  | publish (bus : Nat) (event : Event)

/-- The invocation of a callback with an event. -/
structure Invocation (A : Type) where
  callback : Callback A
  event : Event

/-- What a program learns from a request. -/
inductive Answer (A : Type) where
  | done
  /-- The request gives a name that stands for nothing. -/
  | noSuch
  | number (n : Nat)
  /-- The callbacks that a publish itself invoked, in order. -/
  | invoked (calls : List (Invocation A))

/-- Answers with what a name stands for. -/
def Answer.given {S A N : Type} (s : S) (name : Option N) (f : N → S × Answer A) :
    S × Answer A :=
  match name with
  | none => (s, .noSuch)
  | some n => f n

/-- What holds if the name stands for nothing, and for whatever it may stand for. -/
theorem Answer.given_ind {S A N : Type} {P : S × Answer A → Prop} {s : S} {name : Option N}
    {f : N → S × Answer A} (hnone : P (s, .noSuch)) (hsome : ∀ n, name = some n → P (f n)) :
    P (given s name f) := by
  cases name with
  | none => exact hnone
  | some n => exact hsome n rfl

/-- A program with its buses. -/
structure Client (A : Type) where
  held : Holdings Token
  system : System (Callback A)

namespace Client

open Answer (given)

variable {A : Type}

/-- A program that holds nothing yet. Some types may have keys already. -/
def start (registry : KeyRegistry) : Client A := ⟨.empty, .new registry⟩

/-- Callbacks that are invoked and do nothing more. -/
def idle : Callback A → Event → Client A → Client A := fun _ _ c => c

/-- Invokes a callback and notes it last. What the program does meanwhile adds
nothing to the notes. -/
def noted (invoke : Callback A → Event → Client A → Client A) (k : Callback A) (e : Event)
    (w : (Holdings Token × List (Invocation A)) × System (Callback A)) :
    (Holdings Token × List (Invocation A)) × System (Callback A) :=
  let c := invoke k e ⟨w.1.1, w.2⟩
  ((c.held, w.1.2 ++ [⟨k, e⟩]), c.system)

/-- Publishes an event and notes the callbacks that this publish itself invokes,
with those of the publishes inside it left to them. -/
def publish (invoke : Callback A → Event → Client A → Client A) (id : BusId) (e : Event)
    (c : Client A) : Client A × List (Invocation A) :=
  let w := EventWiring.publish (noted invoke) id e ((c.held, []), c.system)
  (⟨w.1.1, w.2⟩, w.1.2)

/-- Makes one request. -/
def step (invoke : Callback A → Event → Client A → Client A) (c : Client A) :
    Request A → Client A × Answer A
  | .openBus config =>
    let (s, id) := c.system.openBus config
    (⟨c.held.addBus id, s⟩, .done)
  | .cloneBus bus =>
    given c (c.held.bus? bus) fun id => ({ c with held := c.held.addBus id }, .done)
  | .dropBus bus =>
    given c (c.held.bus? bus) fun id =>
      let held := c.held.dropBus bus
      (⟨held, if held.names id then c.system else c.system.dropBus id⟩, .done)
  | .subscribe bus type body =>
    given c (c.held.bus? bus) fun id =>
      let (s, key) := c.system.keyFor (.concrete type)
      let (s, t) := s.subscribe id key (.typed (.concrete type) body)
      (⟨c.held.addToken t, s⟩, .done)
  | .subscribeKey bus key callback =>
    given c (c.held.bus? bus) fun id =>
      let (s, t) := c.system.subscribe id key callback
      (⟨c.held.addToken t, s⟩, .done)
  | .bind bus binder target =>
    given c (c.held.bus? bus) fun id =>
      let (s, h) := c.system.bind id binder target
      (⟨c.held.addHandle h.tokens, s⟩, .done)
  | .remove token =>
    given c (c.held.token? token) fun t =>
      let (s, t) := c.system.remove t
      (⟨c.held.setToken token t, s⟩, .done)
  | .openHandle => ({ c with held := c.held.addHandle BindingHandle.empty.tokens }, .done)
  | .push token handle =>
    given c (c.held.token? token) fun t =>
      given c c.held.handles[handle]? fun ts =>
        ({ c with held := c.held.moveToken token handle t ts }, .done)
  | .removeHeld handle place =>
    given c (c.held.heldToken? handle place) fun t =>
      given c c.held.handles[handle]? fun ts =>
        let (s, t) := c.system.remove t
        (⟨c.held.setHandle handle (ts.set place t), s⟩, .done)
  | .unbind handle =>
    given c c.held.handles[handle]? fun ts =>
      let (s, h) := c.system.unbind ⟨ts⟩
      (⟨c.held.setHandle handle h.tokens, s⟩, .done)
  | .unsubscribeAll bus type =>
    given c (c.held.bus? bus) fun id =>
      ({ c with system := c.system.unsubscribeAll id (.concrete type) }, .done)
  | .clear bus =>
    given c (c.held.bus? bus) fun id => ({ c with system := c.system.clear id }, .done)
  | .count bus type =>
    given c (c.held.bus? bus) fun id =>
      let (s, n) := c.system.count id (.concrete type)
      ({ c with system := s }, .number n)
  | .total bus =>
    given c (c.held.bus? bus) fun id => (c, .number (c.system.total id))
  | .publish bus e =>
    given c (c.held.bus? bus) fun id =>
      let (c, calls) := c.publish invoke id e
      (c, .invoked calls)

/-- Makes requests in order. -/
def run (invoke : Callback A → Event → Client A → Client A) (c : Client A)
    (requests : List (Request A)) : Client A :=
  requests.foldl (fun c r => (c.step invoke r).1) c

/-- The answers to requests made in order. -/
def answers (invoke : Callback A → Event → Client A → Client A) :
    Client A → List (Request A) → List (Answer A)
  | _, [] => []
  | c, r :: rest => (c.step invoke r).2 :: answers invoke (c.step invoke r).1 rest

end Client

end EventWiring
