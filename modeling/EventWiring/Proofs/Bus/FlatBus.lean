import EventWiring.Proofs.Bus.Client

/-! The plain account of event buses: one list of the live subscriptions of all
buses, oldest first. There are no keys, no tables and no numbers of a bus; a
subscription is known by a ticket, and tickets are given out in order. -/
namespace EventWiring

/-- A live subscription. -/
structure Listing (C : Type) where
  ticket : Nat
  bus : BusId
  type : EventType
  callback : C

/-- All buses: how many were opened, how many tickets were given out, and what
is live. -/
structure FlatBuses (C : Type) where
  opened : Nat
  tickets : Nat
  live : List (Listing C)

namespace FlatBuses

variable {C : Type}

def empty : FlatBuses C := ⟨0, 0, []⟩

def openBus (f : FlatBuses C) : FlatBuses C × BusId :=
  ({ f with opened := f.opened + 1 }, f.opened)

def subscribe (f : FlatBuses C) (bus : BusId) (type : EventType) (callback : C) :
    FlatBuses C × Nat :=
  ({ f with tickets := f.tickets + 1, live := f.live ++ [⟨f.tickets, bus, type, callback⟩] },
    f.tickets)

def subscribeAll (f : FlatBuses C) (bus : BusId) :
    List (EventType × C) → FlatBuses C × List Nat
  | [] => (f, [])
  | (t, c) :: rest =>
    let (f, n) := f.subscribe bus t c
    let (f, ns) := subscribeAll f bus rest
    (f, n :: ns)

def remove (f : FlatBuses C) (ticket : Nat) : FlatBuses C :=
  { f with live := f.live.filter (·.ticket ≠ ticket) }

def removeAll (f : FlatBuses C) (tickets : List Nat) : FlatBuses C :=
  tickets.foldl remove f

def unsubscribeAll (f : FlatBuses C) (bus : BusId) (type : EventType) : FlatBuses C :=
  { f with live := f.live.filter fun l => ¬(l.bus = bus ∧ l.type = type) }

/-- Removes everything from a bus. -/
def clear (f : FlatBuses C) (bus : BusId) : FlatBuses C :=
  { f with live := f.live.filter (·.bus ≠ bus) }

/-- What is live for a type on a bus. -/
def on (f : FlatBuses C) (bus : BusId) (type : EventType) : List (Listing C) :=
  f.live.filter fun l => l.bus = bus ∧ l.type = type

/-- How much is live on a bus. -/
def total (f : FlatBuses C) (bus : BusId) : Nat :=
  (f.live.filter (·.bus = bus)).length

/-! ### Tickets -/

/-- What is live stands in the order it was subscribed, each under a ticket of
its own that was given out. -/
structure Ordered (f : FlatBuses C) : Prop where
  increasing : f.live.Pairwise (·.ticket < ·.ticket)
  issued : ∀ l ∈ f.live, l.ticket < f.tickets

variable {f : FlatBuses C}

theorem Ordered.empty : (empty : FlatBuses C).Ordered :=
  ⟨.nil, fun _ hl => absurd hl List.not_mem_nil⟩

theorem Ordered.filter (h : f.Ordered) (stays : Listing C → Bool) :
    Ordered { f with live := f.live.filter stays } :=
  ⟨h.increasing.filter stays, fun l hl => h.issued l (List.mem_filter.mp hl).1⟩

theorem Ordered.subscribe (h : f.Ordered) (bus : BusId) (type : EventType) (callback : C) :
    (f.subscribe bus type callback).1.Ordered := by
  constructor
  · refine List.pairwise_append.mpr ⟨h.increasing, List.pairwise_singleton .., ?_⟩
    intro l hl l' hl'
    rw [List.mem_singleton.mp hl']
    exact h.issued l hl
  · intro l hl
    rcases List.mem_append.mp hl with hl | hl
    · exact Nat.lt_succ_of_lt (h.issued l hl)
    · rw [List.mem_singleton.mp hl]
      exact Nat.lt_succ_self _

theorem Ordered.subscribeAll (h : f.Ordered) (bus : BusId) (wiring : List (EventType × C)) :
    (f.subscribeAll bus wiring).1.Ordered := by
  induction wiring generalizing f with
  | nil => exact h
  | cons w rest ih => exact ih (h.subscribe bus w.1 w.2)

theorem Ordered.removeAll (h : f.Ordered) (tickets : List Nat) :
    (f.removeAll tickets).Ordered := by
  induction tickets generalizing f with
  | nil => exact h
  | cons n rest ih => exact ih (h.filter _)

end FlatBuses

/-- A program with its buses in the plain account. It holds tickets where there
are tokens otherwise. -/
structure FlatClient (A : Type) where
  held : Holdings Nat
  buses : FlatBuses (Callback A)

namespace FlatClient

open Answer (given)

variable {A : Type}

def start : FlatClient A := ⟨.empty, .empty⟩

/-- Makes one request. -/
def step (c : FlatClient A) : Request A → FlatClient A × Answer A
  | .openBus _ =>
    let (f, id) := c.buses.openBus
    (⟨c.held.addBus id, f⟩, .done)
  | .cloneBus bus =>
    given c (c.held.bus? bus) fun id => ({ c with held := c.held.addBus id }, .done)
  | .dropBus bus =>
    given c (c.held.bus? bus) fun id =>
      let held := c.held.dropBus bus
      (⟨held, if held.names id then c.buses else c.buses.clear id⟩, .done)
  | .subscribe bus type body =>
    given c (c.held.bus? bus) fun id =>
      let (f, n) := c.buses.subscribe id (.concrete type) (.typed (.concrete type) body)
      (⟨c.held.addToken n, f⟩, .done)
  | .subscribeKey bus key callback =>
    given c (c.held.bus? bus) fun id =>
      let (f, n) := c.buses.subscribe id key.type callback
      (⟨c.held.addToken n, f⟩, .done)
  | .bind bus binder target =>
    given c (c.held.bus? bus) fun id =>
      let (f, ns) := c.buses.subscribeAll id (binder.wiring target)
      (⟨c.held.addHandle ns, f⟩, .done)
  | .remove token =>
    given c (c.held.token? token) fun n => ({ c with buses := c.buses.remove n }, .done)
  | .openHandle => ({ c with held := c.held.addHandle [] }, .done)
  | .push token handle =>
    given c (c.held.token? token) fun n =>
      given c c.held.handles[handle]? fun ns =>
        ({ c with held := c.held.moveToken token handle n ns }, .done)
  | .removeHeld handle place =>
    given c (c.held.heldToken? handle place) fun n => ({ c with buses := c.buses.remove n }, .done)
  | .unbind handle =>
    given c c.held.handles[handle]? fun ns =>
      (⟨c.held.setHandle handle [], c.buses.removeAll ns⟩, .done)
  | .unsubscribeAll bus type =>
    given c (c.held.bus? bus) fun id =>
      ({ c with buses := c.buses.unsubscribeAll id (.concrete type) }, .done)
  | .clear bus =>
    given c (c.held.bus? bus) fun id => ({ c with buses := c.buses.clear id }, .done)
  | .count bus type =>
    given c (c.held.bus? bus) fun id => (c, .number (c.buses.on id (.concrete type)).length)
  | .total bus =>
    given c (c.held.bus? bus) fun id => (c, .number (c.buses.total id))
  | .publish bus e =>
    given c (c.held.bus? bus) fun id =>
      (c, .invoked ((c.buses.on id e.eventType).map fun l => ⟨l.callback, e⟩))

/-- Makes requests in order. -/
def run (c : FlatClient A) (requests : List (Request A)) : FlatClient A :=
  requests.foldl (fun c r => (c.step r).1) c

/-- The answers to requests made in order. -/
def answers : FlatClient A → List (Request A) → List (Answer A)
  | _, [] => []
  | c, r :: rest => (c.step r).2 :: answers (c.step r).1 rest

/-! ### Tickets -/

end FlatClient

end EventWiring
