import EventWiring.Event.Key

/-! The subscriber table of a bus: for each event key that has any, the live
subscriptions in the order they were made. A key without subscriptions has no
entry. -/
namespace EventWiring

/-- A live subscription of a callback `C`. -/
structure Subscription (C : Type) where
  id : Nat
  callback : C

/-- Subscriptions by event key. -/
structure SubscriberTable (C : Type) where
  entries : List (EventKey × List (Subscription C))

namespace SubscriberTable

variable {C : Type}

/-- The table without subscriptions. -/
def empty : SubscriberTable C := ⟨[]⟩

/-- The subscriptions filed under a key. -/
def listFor (t : SubscriberTable C) (key : EventKey) : List (Subscription C) :=
  (t.entries.lookup key).getD []

/-- The entries with a subscription added last under a key. -/
def fileIn (key : EventKey) (s : Subscription C) :
    List (EventKey × List (Subscription C)) → List (EventKey × List (Subscription C))
  | [] => [(key, [s])]
  | (k, subs) :: rest =>
    if k = key then (k, subs ++ [s]) :: rest else (k, subs) :: fileIn key s rest

/-- Files a subscription under a key. -/
def file (t : SubscriberTable C) (key : EventKey) (s : Subscription C) : SubscriberTable C :=
  ⟨fileIn key s t.entries⟩

/-- Drops a key with all its subscriptions. -/
def dropKey (t : SubscriberTable C) (key : EventKey) : SubscriberTable C :=
  ⟨t.entries.filter fun e => e.1 ≠ key⟩

/-- The entries without one subscription. A key that loses its last one goes too. -/
def removeIn (key : EventKey) (id : Nat) :
    List (EventKey × List (Subscription C)) → List (EventKey × List (Subscription C))
  | [] => []
  | (k, subs) :: rest =>
    if k = key then
      let kept := subs.filter fun s => s.id ≠ id
      if kept.isEmpty then rest else (k, kept) :: rest
    else (k, subs) :: removeIn key id rest

/-- Removes the subscription with a given number from a key. -/
def remove (t : SubscriberTable C) (key : EventKey) (id : Nat) : SubscriberTable C :=
  ⟨removeIn key id t.entries⟩

/-- The number of keys with subscriptions. -/
def size (t : SubscriberTable C) : Nat := t.entries.length

/-- Every live subscription. -/
def all (t : SubscriberTable C) : List (Subscription C) := t.entries.flatMap (·.2)

/-- The number of live subscriptions. -/
def total (t : SubscriberTable C) : Nat := t.all.length

end SubscriberTable

end EventWiring
