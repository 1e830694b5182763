import EventWiring.Proofs.Bus.Refinement

/-! Bindings made and undone. A program binds targets on its buses and unbinds
handles, in any order. What a publish then delivers is read off the list of the
bindings that were made: those of the bus which are still bound, in order, each
with its handlers in order. -/
namespace EventWiring

/-! ### Bindings -/

/-- A binding that was made: the bus, the binder and the target it was made with,
and whether its handle still binds. -/
structure Binding (A : Type) : Type 1 where
  {T : Type}
  bus : BusId
  binder : EventBinder T A
  target : Shared T
  bound : Bool

/-- One step of a program that only binds and unbinds. Buses go by the places of
their names, handles by the order in which they were obtained. -/
inductive BindingStep (A : Type) : Type 1 where
  | openBus (config : BusConfig)
  | cloneBus (bus : Nat)
  | bind {T : Type} (bus : Nat) (binder : EventBinder T A) (target : Shared T)
  | unbind (handle : Nat)
  | publish (bus : Nat) (event : Event)

variable {A : Type}

def BindingStep.request : BindingStep A → Request A
  | .openBus config => .openBus config
  | .cloneBus bus => .cloneBus bus
  | .bind bus binder target => .bind bus binder target
  | .unbind handle => .unbind handle
  | .publish bus e => .publish bus e

/-- Names of buses, how many buses were opened, and the bindings in the order
they were made. -/
structure Bindings (A : Type) : Type 1 where
  buses : List BusId
  opened : Nat
  made : List (Binding A)

namespace Bindings

def start : Bindings A := ⟨[], 0, []⟩

def step (s : Bindings A) : BindingStep A → Bindings A
  | .openBus _ => { s with buses := s.buses ++ [s.opened], opened := s.opened + 1 }
  | .cloneBus bus =>
    match s.buses[bus]? with
    | none => s
    | some id => { s with buses := s.buses ++ [id] }
  | .bind bus binder target =>
    match s.buses[bus]? with
    | none => s
    | some id => { s with made := s.made ++ [⟨id, binder, target, true⟩] }
  | .unbind handle => { s with made := s.made.modify handle fun b => { b with bound := false } }
  | .publish _ _ => s

def run (s : Bindings A) (steps : List (BindingStep A)) : Bindings A := steps.foldl step s

end Bindings

/-- What a binding delivers of an event: each handler, once for each time that it
lists the event's type, on the target that was bound. -/
def Binding.calls (b : Binding A) (e : Event) : List (Invocation A) :=
  b.binder.descriptors.flatMap fun d =>
    List.replicate (d.eventTypes.count e.eventType)
      ⟨⟨some b.target.id, d.invoker b.target.value⟩, e⟩

/-- What all bindings of a bus deliver of an event. -/
def Bindings.calls (s : Bindings A) (id : BusId) (e : Event) : List (Invocation A) :=
  (s.made.filter fun b => b.bound ∧ b.bus = id).flatMap (·.calls e)

/-! ### Wiring -/

/-- The wiring of a target has, for each handler, an entry for every type that it
lists. -/
theorem EventBinder.filter_wiring {T : Type} (b : EventBinder T A) (target : Shared T)
    (t : EventType) :
    (b.wiring target).filter (·.1 = t) = b.descriptors.flatMap fun d =>
      List.replicate (d.eventTypes.count t) (t, ⟨some target.id, d.invoker target.value⟩) := by
  rw [wiring, List.filter_flatMap]
  congr 1
  funext d
  rw [List.filter_map]
  refine (congrArg _ (List.filter_eq t)).trans ?_
  exact List.map_replicate ..

theorem EventBinder.length_wiring {T : Type} (b : EventBinder T A) (target : Shared T) :
    (b.wiring target).length = (b.descriptors.map (·.eventTypes.length)).sum := by
  simp [wiring, List.length_flatMap]

theorem System.length_subscribeAll (s : System (Callback A)) (bus : BusId) (h : BindingHandle)
    (wiring : List (EventType × Callback A)) :
    (s.subscribeAll bus h wiring).2.tokens.length = h.tokens.length + wiring.length := by
  induction wiring generalizing s h with
  | nil => rfl
  | cons w rest ih =>
    refine (ih ..).trans ?_
    simp only [BindingHandle.push, List.length_append, List.length_cons, List.length_nil]
    omega

namespace FlatBuses

variable {C : Type}

/-- What a wiring is listed as under given tickets. -/
def listed (bus : BusId) (tickets : List Nat) (wiring : List (EventType × C)) :
    List (Listing C) :=
  List.zipWith (fun n w => ⟨n, bus, w.1, w.2⟩) tickets wiring

theorem live_subscribeAll (f : FlatBuses C) (bus : BusId) (wiring : List (EventType × C)) :
    (f.subscribeAll bus wiring).1.live =
      f.live ++ listed bus (f.subscribeAll bus wiring).2 wiring := by
  induction wiring generalizing f with
  | nil => exact (List.append_nil _).symm
  | cons w rest ih =>
    refine (ih _).trans ?_
    simp only [List.append_assoc, List.singleton_append]
    rfl

theorem opened_subscribeAll (f : FlatBuses C) (bus : BusId) (wiring : List (EventType × C)) :
    (f.subscribeAll bus wiring).1.opened = f.opened := by
  induction wiring generalizing f with
  | nil => rfl
  | cons w rest ih => exact ih _

theorem length_subscribeAll (f : FlatBuses C) (bus : BusId) (wiring : List (EventType × C)) :
    (f.subscribeAll bus wiring).2.length = wiring.length := by
  induction wiring generalizing f with
  | nil => rfl
  | cons w rest ih => exact congrArg (· + 1) (ih _)

theorem live_removeAll (f : FlatBuses C) (tickets : List Nat) :
    (f.removeAll tickets).live = f.live.filter (·.ticket ∉ tickets) := by
  induction tickets generalizing f with
  | nil => simp [removeAll]
  | cons n rest ih =>
    refine (ih _).trans ?_
    rw [remove, List.filter_filter]
    refine List.filter_congr fun l _ => ?_
    simp [Bool.and_comm]

theorem opened_removeAll (f : FlatBuses C) (tickets : List Nat) :
    (f.removeAll tickets).opened = f.opened := by
  induction tickets generalizing f with
  | nil => rfl
  | cons n rest ih => exact ih _

theorem map_ticket_listed (bus : BusId) {tickets : List Nat} {wiring : List (EventType × C)}
    (h : tickets.length = wiring.length) :
    (listed bus tickets wiring).map (·.ticket) = tickets := by
  induction tickets generalizing wiring with
  | nil => rfl
  | cons n rest ih =>
    cases wiring with
    | nil => cases h
    | cons w ws => exact congrArg (n :: ·) (ih (Nat.succ.inj h))

theorem on_listed {bus : BusId} {tickets : List Nat} {wiring : List (EventType × C)}
    (h : tickets.length = wiring.length) (id : BusId) (t : EventType) :
    ((listed bus tickets wiring).filter fun l => l.bus = id ∧ l.type = t).map (·.callback) =
      if bus = id then (wiring.filter (·.1 = t)).map (·.2) else [] := by
  induction tickets generalizing wiring with
  | nil => cases wiring with
    | nil => simp [listed]
    | cons w ws => cases h
  | cons n rest ih =>
    cases wiring with
    | nil => cases h
    | cons w ws =>
      have ih := ih (Nat.succ.inj h)
      simp only [listed, List.zipWith_cons_cons, List.filter_cons] at ih ⊢
      by_cases hid : bus = id <;> by_cases ht : w.1 = t <;> simp_all

end FlatBuses

/-! ### Handles and what is live -/

namespace Binding

/-- A handle holds one ticket for each entry of its wiring until it is unbound,
and none afterwards. -/
def Holds (b : Binding A) (tickets : List Nat) : Prop :=
  if b.bound then tickets.length = (b.binder.wiring b.target).length else tickets = []

/-- What is live of a binding. -/
def live (b : Binding A) (tickets : List Nat) : List (Listing (Callback A)) :=
  FlatBuses.listed b.bus tickets (b.binder.wiring b.target)

variable {b : Binding A} {tickets : List Nat}

theorem Holds.map_ticket_live (h : b.Holds tickets) :
    (b.live tickets).map (·.ticket) = tickets := by
  unfold Holds at h
  split at h
  · exact FlatBuses.map_ticket_listed _ h
  · subst h
    rfl

theorem Holds.mem_of_mem_live (h : b.Holds tickets) {l : Listing (Callback A)}
    (hl : l ∈ b.live tickets) : l.ticket ∈ tickets := by
  rw [← h.map_ticket_live]
  exact List.mem_map_of_mem hl

theorem holds_unbound (b : Binding A) : Holds { b with bound := false } [] := rfl

theorem calls_eq (b : Binding A) (e : Event) :
    (((b.binder.wiring b.target).filter (·.1 = e.eventType)).map (·.2)).map (⟨·, e⟩) =
      b.calls e := by
  rw [EventBinder.filter_wiring, List.map_flatMap, List.map_flatMap, calls]
  simp only [List.map_replicate]

/-- What a publish finds of a binding is what the binding delivers. -/
theorem Holds.calls (h : b.Holds tickets) (id : BusId) (e : Event) :
    ((b.live tickets).filter fun l => l.bus = id ∧ l.type = e.eventType).map
        (fun l => (⟨l.callback, e⟩ : Invocation A)) =
      if b.bound ∧ b.bus = id then b.calls e else [] := by
  unfold Holds at h
  split at h
  · rename_i hbound
    have hsplit : ∀ ls : List (Listing (Callback A)),
        ls.map (fun l => (⟨l.callback, e⟩ : Invocation A)) =
          (ls.map (·.callback)).map (⟨·, e⟩) := by
      intro ls
      rw [List.map_map]
      rfl
    rw [hsplit, live, FlatBuses.on_listed h]
    by_cases hid : b.bus = id
    · rw [if_pos hid, if_pos ⟨hbound, hid⟩, calls_eq]
    · rw [if_neg hid, if_neg fun hc => hid hc.2, List.map_nil]
  · rename_i hbound
    subst h
    simp [live, FlatBuses.listed, hbound]

end Binding

/-- What is live of bindings with given handles. -/
def liveOf (made : List (Binding A)) (handles : List (List Nat)) : List (Listing (Callback A)) :=
  (List.zipWith Binding.live made handles).flatten

theorem map_ticket_liveOf {made : List (Binding A)} {handles : List (List Nat)}
    (h : List.Forall₂ Binding.Holds made handles) :
    (liveOf made handles).map (·.ticket) = handles.flatten := by
  induction h with
  | nil => rfl
  | cons hb _ ih =>
    simp only [liveOf, List.zipWith_cons_cons, List.flatten_cons, List.map_append] at ih ⊢
    rw [hb.map_ticket_live, ih]

theorem on_liveOf {made : List (Binding A)} {handles : List (List Nat)}
    (h : List.Forall₂ Binding.Holds made handles) (id : BusId) (e : Event) :
    ((liveOf made handles).filter fun l => l.bus = id ∧ l.type = e.eventType).map
        (fun l => (⟨l.callback, e⟩ : Invocation A)) =
      (made.filter fun b => b.bound ∧ b.bus = id).flatMap (·.calls e) := by
  induction h with
  | nil => rfl
  | cons hb _ ih =>
    simp only [liveOf, List.zipWith_cons_cons, List.flatten_cons, List.filter_append,
      List.map_append] at ih ⊢
    rw [hb.calls, ih]
    split
    · rename_i hq
      rw [List.filter_cons, if_pos (decide_eq_true hq), List.flatMap_cons]
    · rename_i hq
      rw [List.filter_cons, if_neg (by simpa using hq), List.nil_append]

/-- Unbinding a handle takes what is live of its binding and nothing else, since
no two handles share a ticket. -/
theorem filter_liveOf {made : List (Binding A)} {handles : List (List Nat)}
    (h : List.Forall₂ Binding.Holds made handles) (hnodup : handles.flatten.Nodup) {i : Nat}
    {tickets : List Nat} (hi : handles[i]? = some tickets) :
    (liveOf made handles).filter (·.ticket ∉ tickets) =
      liveOf (made.modify i fun b => { b with bound := false }) (handles.set i []) := by
  induction h generalizing i with
  | nil => cases hi
  | @cons b ns made handles hb hrest ih =>
    have hlive := map_ticket_liveOf hrest
    rw [List.flatten_cons, List.nodup_append] at hnodup
    obtain ⟨-, hnodup, hdisjoint⟩ := hnodup
    simp only [liveOf, List.zipWith_cons_cons, List.flatten_cons, List.filter_append] at ih hlive ⊢
    cases i with
    | zero =>
      cases hi
      -- the first binding loses all, and the others have none of its tickets
      have hblock : (b.live tickets).filter (·.ticket ∉ tickets) = [] := by
        refine List.filter_eq_nil_iff.mpr fun l hl => ?_
        simp [hb.mem_of_mem_live hl]
      have hothers :
          (List.zipWith Binding.live made handles).flatten.filter (·.ticket ∉ tickets) =
            (List.zipWith Binding.live made handles).flatten := by
        refine List.filter_eq_self.mpr fun l hl => decide_eq_true fun hmem => ?_
        have : l.ticket ∈ handles.flatten := hlive ▸ List.mem_map_of_mem hl
        exact hdisjoint _ hmem _ this rfl
      rw [hblock, hothers]
      rfl
    | succ i =>
      -- the tickets that go are of a later handle, so the first binding stays
      have hblock : (b.live ns).filter (·.ticket ∉ tickets) = b.live ns := by
        refine List.filter_eq_self.mpr fun l hl => decide_eq_true fun hmem => ?_
        have : l.ticket ∈ handles.flatten :=
          List.mem_flatten.mpr ⟨tickets, List.mem_of_getElem? hi, hmem⟩
        exact hdisjoint _ (hb.mem_of_mem_live hl) _ this rfl
      rw [hblock, ih hnodup hi]
      rfl

/-! ### Steps and runs -/

namespace Bindings

/-- The bindings account for what a program holds and for all that is live. -/
structure Tracks (s : Bindings A) (f : FlatClient A) : Prop where
  names : f.held.buses = s.buses.map some
  opened : f.buses.opened = s.opened
  handles : List.Forall₂ Binding.Holds s.made f.held.handles
  live : f.buses.live = liveOf s.made f.held.handles
  ordered : f.buses.Ordered

namespace Tracks

variable {s : Bindings A} {f : FlatClient A}

theorem start : (start : Bindings A).Tracks .start := ⟨rfl, rfl, .nil, rfl, .empty⟩

theorem bus? (h : s.Tracks f) (bus : Nat) : f.held.bus? bus = s.buses[bus]? := by
  rw [Holdings.bus?, h.names, List.getElem?_map]
  cases s.buses[bus]? <;> rfl

/-- Tickets are given out once, so no two places of handles have the same. -/
theorem nodup (h : s.Tracks f) : f.held.handles.flatten.Nodup := by
  rw [← map_ticket_liveOf h.handles, ← h.live]
  exact (List.pairwise_map.mpr h.ordered.increasing).imp Nat.ne_of_lt

theorem openBus (h : s.Tracks f) (config : BusConfig) :
    (s.step (.openBus config)).Tracks (f.step (.openBus config)).1 := by
  refine ⟨?_, congrArg (· + 1) h.opened, h.handles, h.live, h.ordered.increasing,
    h.ordered.issued⟩
  show f.held.buses ++ [some f.buses.opened] = (s.buses ++ [s.opened]).map some
  rw [h.names, h.opened, List.map_append]
  rfl

theorem cloneBus (h : s.Tracks f) (bus : Nat) :
    (s.step (.cloneBus bus)).Tracks (f.step (.cloneBus bus)).1 := by
  simp only [Bindings.step, FlatClient.step, h.bus?]
  cases s.buses[bus]? with
  | none => exact h
  | some id =>
    refine ⟨?_, h.opened, h.handles, h.live, h.ordered⟩
    show f.held.buses ++ [some id] = (s.buses ++ [id]).map some
    rw [h.names, List.map_append]
    rfl

theorem bind {T : Type} (h : s.Tracks f) (bus : Nat) (binder : EventBinder T A)
    (target : Shared T) :
    (s.step (.bind bus binder target)).Tracks (f.step (.bind bus binder target)).1 := by
  simp only [Bindings.step, FlatClient.step, h.bus?]
  cases s.buses[bus]? with
  | none => exact h
  | some id =>
    have hholds : Binding.Holds ⟨id, binder, target, true⟩
        (f.buses.subscribeAll id (binder.wiring target)).2 :=
      f.buses.length_subscribeAll id (binder.wiring target)
    refine ⟨h.names, (f.buses.opened_subscribeAll ..).trans h.opened,
      List.rel_append h.handles (.cons hholds .nil), ?_, h.ordered.subscribeAll id _⟩
    refine (f.buses.live_subscribeAll ..).trans ?_
    show _ = liveOf (s.made ++ [_]) (f.held.handles ++ [_])
    rw [liveOf, List.zipWith_append h.handles.length_eq, List.flatten_append, ← liveOf, ← h.live]
    exact congrArg _ (List.append_nil _).symm

theorem unbind (h : s.Tracks f) (handle : Nat) :
    (s.step (.unbind handle)).Tracks (f.step (.unbind handle)).1 := by
  simp only [Bindings.step, FlatClient.step]
  cases hi : f.held.handles[handle]? with
  | none =>
    have hlength := List.getElem?_eq_none_iff.mp hi
    rw [← h.handles.length_eq] at hlength
    rw [List.modify_eq_self hlength]
    exact h
  | some tickets =>
    refine ⟨h.names, (f.buses.opened_removeAll ..).trans h.opened,
      forall₂_modify_set h.handles handle Binding.holds_unbound, ?_, h.ordered.removeAll _⟩
    refine (f.buses.live_removeAll tickets).trans ?_
    rw [h.live]
    exact filter_liveOf h.handles h.nodup hi

theorem step (h : s.Tracks f) (r : BindingStep A) : (s.step r).Tracks (f.step r.request).1 := by
  cases r with
  | openBus config => exact h.openBus config
  | cloneBus bus => exact h.cloneBus bus
  | bind bus binder target => exact h.bind bus binder target
  | unbind handle => exact h.unbind handle
  | publish bus e =>
    simp only [BindingStep.request, FlatClient.step, h.bus?]
    cases s.buses[bus]? <;> exact h

theorem run (h : s.Tracks f) (steps : List (BindingStep A)) :
    (s.run steps).Tracks (f.run (steps.map BindingStep.request)) := by
  induction steps generalizing s f with
  | nil => exact h
  | cons r rest ih => exact ih (h.step r)

/-- A publish invokes what the bindings of the bus deliver. -/
theorem publish (h : s.Tracks f) (bus : Nat) (e : Event) :
    (f.step (.publish bus e)).2 =
      match s.buses[bus]? with
      | none => .noSuch
      | some id => .invoked (s.calls id e) := by
  simp only [FlatClient.step, h.bus?]
  cases s.buses[bus]? with
  | none => rfl
  | some id =>
    refine congrArg Answer.invoked ?_
    rw [FlatBuses.on, h.live, on_liveOf h.handles, calls]

end Tracks

end Bindings

/-- After bindings were made and undone in any order, a publish on a bus invokes
what its bindings that are still bound deliver, in the order they were made,
whatever the handlers do meanwhile. A new handle has a token for every type that
a handler lists. -/
theorem publish_invokes_bound_handlers (registry : KeyRegistry) (steps : List (BindingStep A))
    (invoke : Callback A → Event → Client A → Client A) (bus : Nat) (e : Event) :
    ((((Client.start registry).run Client.idle (steps.map BindingStep.request)).step invoke
        (.publish bus e)).2 =
      match (Bindings.start.run steps).buses[bus]? with
      | none => .noSuch
      | some id => .invoked ((Bindings.start.run steps).calls id e)) ∧
    ∀ {T : Type} (s : System (Callback A)) (id : BusId) (b : EventBinder T A) (target : Shared T),
      (s.bind id b target).2.tokens.length = (b.descriptors.map (·.eventTypes.length)).sum := by
  constructor
  · -- the keyed buses answer as the flat list does, and the bindings account for that
    have hrefines := Refines.run ⟨_, .start registry⟩ (steps.map BindingStep.request)
    exact (hrefines.publish_answer invoke bus e).trans
      ((Bindings.Tracks.start.run steps).publish bus e)
  · intro T s id b target
    refine (System.length_subscribeAll ..).trans ?_
    rw [b.length_wiring]
    exact Nat.zero_add _

/-- Of two bindings the first is undone, and the second target alone is reached. -/
example :
    let opened : ConcreteType := ⟨1, "Opened"⟩
    let e : Event := ⟨opened, "opened", none, .null, ""⟩
    let binder : EventBinder Nat Nat :=
      ⟨"Panel", [⟨⟨"on_opened", []⟩, "Panel", [.concrete opened], fun n _ => some n⟩]⟩
    let c := (Client.start .empty).run Client.idle
      [.openBus .default, .bind 0 binder ⟨0, 7⟩, .bind 0 binder ⟨1, 8⟩, .unbind 0]
    (c.step Client.idle (.publish 0 e)).2 = .invoked [⟨⟨some 1, fun _ => some 8⟩, e⟩] := by
  rfl

end EventWiring
