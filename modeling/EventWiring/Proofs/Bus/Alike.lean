import EventWiring.Proofs.Bus.Refinement

/-! Systems that differ in the log and in the publishes that are running only. A
program cannot tell them apart, and whatever it does next leads to systems that are
alike again. So a state inside a callback is known from a run in which no callback
does anything. -/
namespace EventWiring

open Answer (given)

namespace System

variable {C : Type}

/-- The same registry and the same buses. -/
structure Alike (s t : System C) : Prop where
  registry : s.registry = t.registry
  buses : s.buses = t.buses

namespace Alike

variable {s t : System C}

theorem refl (s : System C) : s.Alike s := ⟨rfl, rfl⟩

theorem symm (h : s.Alike t) : t.Alike s := ⟨h.registry.symm, h.buses.symm⟩

theorem trans {u : System C} (h : s.Alike t) (h' : t.Alike u) : s.Alike u :=
  ⟨h.registry.trans h'.registry, h.buses.trans h'.buses⟩

theorem bus? (h : s.Alike t) (id : BusId) : s.bus? id = t.bus? id := bus?_congr h.buses id

/-! ### Reports -/

theorem report (h : s.Alike t) (es es' : List LogEntry) : (s.report es).Alike (t.report es') :=
  ⟨h.registry, h.buses⟩

theorem reportIf (h : s.Alike t) (c c' : Bool) (e e' : LogEntry) :
    (s.reportIf c e).Alike (t.reportIf c' e') := by
  constructor
  · rw [registry_reportIf, registry_reportIf]
    exact h.registry
  · rw [buses_reportIf, buses_reportIf]
    exact h.buses

theorem putBus (h : s.Alike t) (id : BusId) (b : Bus C) : (s.putBus id b).Alike (t.putBus id b) :=
  ⟨h.registry, congrArg (·.set id (some b)) h.buses⟩

/-! ### Operations -/

theorem keyFor (h : s.Alike t) (u : EventType) : (s.keyFor u).1.Alike (t.keyFor u).1 := by
  constructor
  · rw [registry_keyFor, registry_keyFor, h.registry]
  · rw [buses_keyFor, buses_keyFor]
    exact h.buses

theorem key_keyFor (h : s.Alike t) (u : EventType) : (s.keyFor u).2 = (t.keyFor u).2 := by
  rw [System.key_keyFor, System.key_keyFor, h.registry]

theorem openBus (h : s.Alike t) (config : BusConfig) :
    (s.openBus config).1.Alike (t.openBus config).1 ∧
      (s.openBus config).2 = (t.openBus config).2 :=
  ⟨⟨h.registry, congrArg (· ++ _) h.buses⟩, congrArg List.length h.buses⟩

theorem dropBus (h : s.Alike t) (id : BusId) : (s.dropBus id).Alike (t.dropBus id) :=
  ⟨h.registry, congrArg (·.set id none) h.buses⟩

theorem subscribe (h : s.Alike t) (id : BusId) (key : EventKey) (callback : C) :
    (s.subscribe id key callback).1.Alike (t.subscribe id key callback).1 ∧
      (s.subscribe id key callback).2 = (t.subscribe id key callback).2 := by
  have hkeyed := h.keyFor key.type
  unfold System.subscribe
  dsimp only
  rw [hkeyed.bus?, h.key_keyFor]
  split
  · exact ⟨hkeyed, rfl⟩
  · exact ⟨(hkeyed.putBus ..).reportIf .., rfl⟩

/-- Subscribing to a type whose key may have to be made first. -/
theorem subscribe_keyFor (h : s.Alike t) (id : BusId) (u : EventType) (callback : C) :
    let x := (s.keyFor u).1.subscribe id (s.keyFor u).2 callback
    let y := (t.keyFor u).1.subscribe id (t.keyFor u).2 callback
    x.1.Alike y.1 ∧ x.2 = y.2 := by
  dsimp only
  rw [h.key_keyFor]
  exact (h.keyFor u).subscribe ..

theorem remove (h : s.Alike t) (token : Token) : (s.remove token).1.Alike (t.remove token).1 := by
  unfold System.remove
  rw [h.bus?]
  split
  · exact h
  · split
    · exact h
    · exact (h.putBus ..).reportIf ..

theorem removeAll (h : s.Alike t) (tokens : List Token) :
    (s.removeAll tokens).Alike (t.removeAll tokens) := by
  induction tokens generalizing s t with
  | nil => exact h
  | cons token rest ih => exact ih (h.remove token)

theorem unbind (h : s.Alike t) (handle : BindingHandle) :
    (s.unbind handle).1.Alike (t.unbind handle).1 ∧
      (s.unbind handle).2 = (t.unbind handle).2 := by
  unfold System.unbind
  split
  · exact ⟨h, rfl⟩
  · exact ⟨(h.removeAll _).report .., rfl⟩

theorem unsubscribeAll (h : s.Alike t) (id : BusId) (u : EventType) :
    (s.unsubscribeAll id u).Alike (t.unsubscribeAll id u) := by
  have hkeyed := h.keyFor u
  unfold System.unsubscribeAll
  dsimp only
  rw [hkeyed.bus?, h.key_keyFor]
  split
  · exact hkeyed
  · exact (hkeyed.putBus ..).reportIf ..

theorem clear (h : s.Alike t) (id : BusId) : (s.clear id).Alike (t.clear id) := by
  unfold System.clear
  rw [h.bus?]
  split
  · exact h
  · exact (h.putBus ..).reportIf ..

theorem count (h : s.Alike t) (id : BusId) (u : EventType) :
    (s.count id u).1.Alike (t.count id u).1 ∧ (s.count id u).2 = (t.count id u).2 := by
  unfold System.count
  dsimp only
  rw [(h.keyFor u).bus?, h.key_keyFor]
  exact ⟨h.keyFor u, rfl⟩

theorem total (h : s.Alike t) (id : BusId) : s.total id = t.total id := by
  rw [System.total, System.total, h.bus?]

theorem subscribersOf (h : s.Alike t) (id : BusId) (e : Event) :
    s.subscribersOf id e = t.subscribersOf id e := by
  rw [System.subscribersOf, System.subscribersOf, h.bus?, h.registry]

theorem subscribeAll {A : Type} {s t : System (Callback A)} (h : s.Alike t) (bus : BusId)
    (handle : BindingHandle) (wiring : List (EventType × Callback A)) :
    (s.subscribeAll bus handle wiring).1.Alike (t.subscribeAll bus handle wiring).1 ∧
      (s.subscribeAll bus handle wiring).2 = (t.subscribeAll bus handle wiring).2 := by
  induction wiring generalizing s t handle with
  | nil => exact ⟨h, rfl⟩
  | cons w rest ih =>
    obtain ⟨hnext, htoken⟩ := h.subscribe_keyFor bus w.1 w.2
    rw [System.subscribeAll, System.subscribeAll]
    dsimp only
    rw [htoken]
    exact ih hnext _

theorem bind {A T : Type} {s t : System (Callback A)} (h : s.Alike t) (bus : BusId)
    (binder : EventBinder T A) (target : Shared T) :
    (s.bind bus binder target).1.Alike (t.bind bus binder target).1 ∧
      (s.bind bus binder target).2 = (t.bind bus binder target).2 := by
  obtain ⟨hall, hhandle⟩ := h.subscribeAll bus .empty (binder.wiring target)
  exact ⟨hall.report .., hhandle⟩

theorem beginPublish (s : System C) (id : BusId) (e : Event) : (s.beginPublish id e).1.Alike s :=
  ⟨registry_beginPublish .., buses_beginPublish ..⟩

theorem endPublish (s : System C) (id : BusId) (e : Event) (n : Nat) :
    (s.endPublish id e n).Alike s :=
  ⟨registry_endPublish .., buses_endPublish ..⟩

end Alike

end System

namespace Client

variable {A : Type}

/-- The same holdings and systems that are alike. -/
structure Alike (c d : Client A) : Prop where
  held : c.held = d.held
  system : c.system.Alike d.system

/-- States that are alike, with the same answer. -/
def AlikeAnswer (x y : Client A × Answer A) : Prop := x.1.Alike y.1 ∧ x.2 = y.2

namespace Alike

variable {c d : Client A}

theorem refl (c : Client A) : c.Alike c := ⟨rfl, .refl _⟩

theorem symm (h : c.Alike d) : d.Alike c := ⟨h.held.symm, h.system.symm⟩

theorem trans {e : Client A} (h : c.Alike d) (h' : d.Alike e) : c.Alike e :=
  ⟨h.held.trans h'.held, h.system.trans h'.system⟩

theorem given (h : c.Alike d) {N : Type} (name : Option N) {x y : N → Client A × Answer A}
    (hxy : ∀ n, AlikeAnswer (x n) (y n)) : AlikeAnswer (given c name x) (given d name y) :=
  given_rel (P := AlikeAnswer) (rel_refl name) ⟨h, rfl⟩ fun n _ _ _ he => he ▸ hxy n

/-- Callbacks that do nothing leave a state that is alike. -/
theorem publish_idle (c : Client A) (id : BusId) (e : Event) :
    (c.publish idle id e).1.Alike c := by
  obtain ⟨s, hpublish, hregistry, hbuses⟩ := c.publish_idle id e
  rw [hpublish]
  exact ⟨rfl, hregistry, hbuses⟩

theorem publish (h : c.Alike d) (id : BusId) (e : Event) :
    (c.publish idle id e).1.Alike (d.publish idle id e).1 ∧
      (c.publish idle id e).2 = (d.publish idle id e).2 := by
  constructor
  · exact (publish_idle c id e).trans (h.trans (publish_idle d id e).symm)
  · rw [calls_publish, calls_publish, h.system.subscribersOf]

/-- States that are alike answer alike and stay alike. -/
theorem step (h : c.Alike d) (r : Request A) : AlikeAnswer (c.step idle r) (d.step idle r) := by
  -- both hold the same, so every name stands for the same on both sides
  obtain ⟨held, s⟩ := c
  obtain ⟨_, t⟩ := d
  obtain ⟨rfl, hs⟩ := h
  have h : (⟨held, s⟩ : Client A).Alike ⟨held, t⟩ := ⟨rfl, hs⟩
  cases r with
  | openBus config =>
    obtain ⟨hnext, hid⟩ := hs.openBus config
    exact ⟨⟨congrArg held.addBus hid, hnext⟩, rfl⟩
  | cloneBus bus => exact h.given _ fun id => ⟨⟨rfl, hs⟩, rfl⟩
  | dropBus bus =>
    refine h.given _ fun id => ⟨⟨rfl, ?_⟩, rfl⟩
    dsimp only
    split
    · exact hs
    · exact hs.dropBus id
  | subscribe bus type body =>
    refine h.given _ fun id => ?_
    obtain ⟨hnext, htoken⟩ :=
      hs.subscribe_keyFor id (.concrete type) (.typed (.concrete type) body)
    exact ⟨⟨congrArg held.addToken htoken, hnext⟩, rfl⟩
  | subscribeKey bus key callback =>
    refine h.given _ fun id => ?_
    obtain ⟨hnext, htoken⟩ := hs.subscribe id key callback
    exact ⟨⟨congrArg held.addToken htoken, hnext⟩, rfl⟩
  | bind bus binder target =>
    refine h.given _ fun id => ?_
    obtain ⟨hnext, hhandle⟩ := hs.bind id binder target
    exact ⟨⟨congrArg (fun b => held.addHandle b.tokens) hhandle, hnext⟩, rfl⟩
  | remove token =>
    refine h.given _ fun t' => ⟨⟨?_, hs.remove t'⟩, rfl⟩
    exact congrArg (held.setToken token) (by rw [System.token_remove, System.token_remove])
  | openHandle => exact ⟨⟨rfl, hs⟩, rfl⟩
  | push token handle => exact h.given _ fun t' => h.given _ fun ts => ⟨⟨rfl, hs⟩, rfl⟩
  | removeHeld handle place =>
    refine h.given _ fun t' => h.given _ fun ts => ⟨⟨?_, hs.remove t'⟩, rfl⟩
    exact congrArg (fun u => held.setHandle handle (ts.set place u))
      (by rw [System.token_remove, System.token_remove])
  | unbind handle =>
    refine h.given _ fun ts => ?_
    obtain ⟨hnext, hhandle⟩ := hs.unbind ⟨ts⟩
    exact ⟨⟨congrArg (fun b => held.setHandle handle b.tokens) hhandle, hnext⟩, rfl⟩
  | unsubscribeAll bus type => exact h.given _ fun id => ⟨⟨rfl, hs.unsubscribeAll id _⟩, rfl⟩
  | clear bus => exact h.given _ fun id => ⟨⟨rfl, hs.clear id⟩, rfl⟩
  | count bus type =>
    refine h.given _ fun id => ?_
    obtain ⟨hnext, hcount⟩ := hs.count id (.concrete type)
    exact ⟨⟨rfl, hnext⟩, congrArg Answer.number hcount⟩
  | total bus => exact h.given _ fun id => ⟨⟨rfl, hs⟩, congrArg Answer.number (hs.total id)⟩
  | publish bus e =>
    refine h.given _ fun id => ?_
    obtain ⟨hnext, hcalls⟩ := h.publish id e
    exact ⟨hnext, congrArg Answer.invoked hcalls⟩

end Alike

end Client

/-! ### Where a program can come to -/

variable {A : Type} {c d : Client A}

theorem Mirrors.alike {f : FlatClient A} {number : Nat → Nat} (h : Mirrors d f number)
    (hcd : c.Alike d) : Mirrors c f number := by
  obtain ⟨held, s⟩ := c
  obtain ⟨rfl, hs⟩ := hcd
  exact h.advance (h.agree.congr hs.registry hs.buses) (Twin.keeps_congr hs.registry hs.buses)
    (System.isOpen_congr hs.buses)

namespace Client

theorem run_append (c : Client A) (rs rs' : List (Request A)) :
    c.run idle (rs ++ rs') = (c.run idle rs).run idle rs' := List.foldl_append ..

theorem Alike.run (h : c.Alike d) (requests : List (Request A)) :
    (c.run idle requests).Alike (d.run idle requests) := by
  induction requests generalizing c d with
  | nil => exact h
  | cons r rest ih => exact ih (h.step r).1

/-- Every state that a program can come to. Those inside callbacks are among them,
as each is like one that is reached without any callback doing anything. -/
def Reached (c : Client A) : Prop :=
  ∃ registry requests, c.Alike ((start registry).run idle requests)

namespace Reached

theorem mirrors (h : c.Reached) : ∃ f number, Mirrors c f number := by
  obtain ⟨registry, requests, h⟩ := h
  obtain ⟨number, hmirrors, -⟩ := (Mirrors.start registry).run requests
  exact ⟨_, number, hmirrors.alike h⟩

theorem run (h : c.Reached) (requests : List (Request A)) : (c.run idle requests).Reached := by
  obtain ⟨registry, before, h⟩ := h
  refine ⟨registry, before ++ requests, ?_⟩
  rw [run_append]
  exact h.run requests

theorem alike (h : d.Reached) (hcd : c.Alike d) : c.Reached := by
  obtain ⟨registry, requests, h⟩ := h
  exact ⟨registry, requests, hcd.trans h⟩

/-- A publish runs what is filed for the type of its event. -/
theorem filedFor (h : c.Reached) (id : BusId) (e : Event) :
    (c.system.subscribersOf id e).map (·.callback) = c.system.filedFor id e.eventType := by
  obtain ⟨f, number, h⟩ := h.mirrors
  exact h.agree.filedFor id e

end Reached

end Client

end EventWiring
