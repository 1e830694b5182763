import EventWiring.Handler.Binder
import EventWiring.Proofs.Event.Key

/-! What the operations on buses change. A system is seen through its registry
and through the bus that each name stands for; what is logged and which
publishes are running has no say in either. -/
namespace EventWiring

namespace System

variable {C : Type}

/-! ### Reports -/

@[simp] theorem registry_report (s : System C) (es : List LogEntry) :
    (s.report es).registry = s.registry := rfl

@[simp] theorem buses_report (s : System C) (es : List LogEntry) :
    (s.report es).buses = s.buses := rfl

@[simp] theorem registry_reportIf (s : System C) (c : Bool) (e : LogEntry) :
    (s.reportIf c e).registry = s.registry := by
  unfold reportIf
  split <;> rfl

@[simp] theorem buses_reportIf (s : System C) (c : Bool) (e : LogEntry) :
    (s.reportIf c e).buses = s.buses := by
  unfold reportIf
  split <;> rfl

/-- Systems with the same places hold the same buses. -/
theorem bus?_congr {s t : System C} (h : t.buses = s.buses) (id : BusId) :
    t.bus? id = s.bus? id := by
  simp [bus?, h]

/-! ### Keys -/

@[simp] theorem registry_keyFor (s : System C) (t : EventType) :
    (s.keyFor t).1.registry = (s.registry.keyFor t).1 := by
  unfold keyFor
  split
  · rename_i h
    simp [KeyRegistry.keyFor, h]
  · simp

@[simp] theorem key_keyFor (s : System C) (t : EventType) :
    (s.keyFor t).2 = (s.registry.keyFor t).2 := by
  unfold keyFor
  split
  · rename_i h
    simp [KeyRegistry.keyFor, h]
  · simp

@[simp] theorem buses_keyFor (s : System C) (t : EventType) :
    (s.keyFor t).1.buses = s.buses := by
  unfold keyFor
  split <;> simp

/-! ### Places -/

theorem bus?_lt {s : System C} {id : BusId} {b : Bus C} (h : s.bus? id = some b) :
    id < s.buses.length := by
  by_cases hlt : id < s.buses.length
  · exact hlt
  · simp [bus?, List.getElem?_eq_none (Nat.le_of_not_lt hlt)] at h

/-- Changing the bus of a name changes the bus of no other name. -/
theorem bus?_putBus {s : System C} {id : BusId} {b₀ : Bus C} (h : s.bus? id = some b₀)
    (b : Bus C) (id' : BusId) :
    (s.putBus id b).bus? id' = if id' = id then some b else s.bus? id' := by
  have hlt := bus?_lt h
  by_cases he : id' = id
  · subst he
    simp [bus?, putBus, hlt]
  · simp [bus?, putBus, he, Ne.symm he]

@[simp] theorem length_putBus (s : System C) (id : BusId) (b : Bus C) :
    (s.putBus id b).buses.length = s.buses.length := by
  simp [putBus]

theorem bus?_openBus (s : System C) (config : BusConfig) (id : BusId) :
    (s.openBus config).1.bus? id =
      if id = s.buses.length then some (.new config) else s.bus? id := by
  by_cases he : id = s.buses.length
  · simp [bus?, openBus, he]
  · by_cases hlt : id < s.buses.length
    · simp only [bus?, openBus, he, if_false, List.getElem?_append_left hlt]
    · have hge : s.buses.length ≤ id := Nat.le_of_not_lt hlt
      have hgt : s.buses.length < id := Nat.lt_of_le_of_ne hge (Ne.symm he)
      simp only [bus?, openBus, he, if_false]
      rw [List.getElem?_eq_none hge, List.getElem?_eq_none (by rw [List.length_append]; exact hgt)]

theorem bus?_dropBus (s : System C) (id id' : BusId) :
    (s.dropBus id).bus? id' = if id' = id then none else s.bus? id' := by
  by_cases he : id' = id
  · subst he
    by_cases hlt : id' < s.buses.length <;> simp [bus?, dropBus, hlt]
  · simp [bus?, dropBus, he, Ne.symm he]

/-- An operation that changes the bus of one name, if that is open, and nothing
else that is open. -/
theorem bus?_of_change {s s' : System C} {id : BusId} (f : Bus C → Bus C)
    (closed : s.bus? id = none → s'.buses = s.buses)
    (opened : ∀ b, s.bus? id = some b → s'.buses = (s.putBus id (f b)).buses) (id' : BusId) :
    s'.bus? id' = if id' = id then (s.bus? id').map f else s.bus? id' := by
  cases hb : s.bus? id with
  | none =>
    rw [bus?_congr (closed hb)]
    split
    · rename_i he
      rw [he, hb]
      rfl
    · rfl
  | some b =>
    rw [bus?_congr (opened b hb), bus?_putBus hb]
    split
    · rename_i he
      rw [he, hb]
      rfl
    · rfl

/-- Whether a name stands for an open bus. -/
def isOpen (s : System C) (id : BusId) : Bool := (s.bus? id).isSome

theorem isOpen_congr {s t : System C} (h : t.buses = s.buses) (id : BusId) :
    t.isOpen id = s.isOpen id :=
  congrArg Option.isSome (bus?_congr h id)

theorem isOpen_of_change {s s' : System C} {id : BusId} {f : Bus C → Bus C}
    (h : ∀ id', s'.bus? id' = if id' = id then (s.bus? id').map f else s.bus? id')
    (id' : BusId) : s'.isOpen id' = s.isOpen id' := by
  rw [isOpen, h]
  split
  · exact Option.isSome_map
  · rfl

theorem isOpen_openBus (s : System C) (config : BusConfig) {id : BusId}
    (h : id = s.buses.length ∨ s.isOpen id = true) : (s.openBus config).1.isOpen id = true := by
  rw [isOpen, bus?_openBus]
  split
  · rfl
  · rename_i hne
    exact h.resolve_left hne

theorem isOpen_dropBus (s : System C) {id id' : BusId} (hne : id' ≠ id)
    (h : s.isOpen id' = true) : (s.dropBus id).isOpen id' = true := by
  rw [isOpen, bus?_dropBus, if_neg hne]
  exact h

/-! ### Subscribing and removing -/

variable (s : System C)

theorem bus?_keyFor (t : EventType) (id : BusId) : (s.keyFor t).1.bus? id = s.bus? id :=
  bus?_congr (buses_keyFor s t) id

theorem registry_subscribe (id : BusId) (key : EventKey) (callback : C) :
    (s.subscribe id key callback).1.registry = (s.registry.keyFor key.type).1 := by
  unfold subscribe
  dsimp only
  split <;> simp [putBus]

/-- Subscribing under the key that was just given for a type asks for no other key. -/
theorem registry_subscribe_keyFor (id : BusId) (t : EventType) (callback : C) :
    ((s.keyFor t).1.subscribe id (s.keyFor t).2 callback).1.registry =
      (s.registry.keyFor t).1 := by
  rw [registry_subscribe, registry_keyFor, key_keyFor, KeyRegistry.type_keyFor,
    KeyRegistry.keyFor_of_get? (KeyRegistry.get?_keyFor_self ..)]

/-- A callback is filed last under the registry's key of its type, with the next
number of its bus. -/
theorem bus?_subscribe (id : BusId) (key : EventKey) (callback : C) (id' : BusId) :
    (s.subscribe id key callback).1.bus? id' =
      if id' = id then
        (s.bus? id').map fun b =>
          { b with
            table := b.table.file (s.registry.keyFor key.type).2 ⟨b.nextId, callback⟩
            nextId := b.nextId + 1 }
      else s.bus? id' := by
  refine bus?_of_change _ (fun h => ?_) (fun b h => ?_) id'
  · simp [subscribe, bus?_keyFor, h]
  · simp [subscribe, bus?_keyFor, h, putBus]

theorem isOpen_subscribe (id : BusId) (key : EventKey) (callback : C) (id' : BusId) :
    (s.subscribe id key callback).1.isOpen id' = s.isOpen id' :=
  isOpen_of_change (s.bus?_subscribe id key callback) id'

theorem length_subscribe (id : BusId) (key : EventKey) (callback : C) :
    (s.subscribe id key callback).1.buses.length = s.buses.length := by
  unfold subscribe
  dsimp only
  split <;> simp

theorem token_subscribe {s : System C} {id : BusId} {b : Bus C} (h : s.bus? id = some b)
    (key : EventKey) (callback : C) :
    (s.subscribe id key callback).2 =
      ⟨id, (s.registry.keyFor key.type).2, b.nextId, false, b.config.logging⟩ := by
  simp [subscribe, bus?_keyFor, h]

theorem registry_remove (t : Token) : (s.remove t).1.registry = s.registry := by
  unfold remove
  split
  · rfl
  · split <;> simp [putBus]

theorem registry_removeAll (tokens : List Token) : (s.removeAll tokens).registry = s.registry := by
  induction tokens generalizing s with
  | nil => rfl
  | cons t rest ih => exact (ih _).trans (s.registry_remove t)

theorem registry_unbind (h : BindingHandle) : (s.unbind h).1.registry = s.registry := by
  unfold unbind
  split
  · rfl
  · exact s.registry_removeAll h.tokens

theorem length_remove (t : Token) : (s.remove t).1.buses.length = s.buses.length := by
  unfold remove
  split
  · rfl
  · split <;> simp

/-- A token that was not used yet takes its subscription from its bus. -/
theorem bus?_remove {t : Token} (fresh : t.removed = false) (id : BusId) :
    (s.remove t).1.bus? id =
      if id = t.bus then
        (s.bus? id).map fun b => { b with table := b.table.remove t.key t.id }
      else s.bus? id := by
  refine bus?_of_change _ (fun h => ?_) (fun b h => ?_) id
  · simp [remove, fresh, h]
  · simp [remove, fresh, h]

theorem remove_of_removed {t : Token} (h : t.removed = true) : s.remove t = (s, t) := by
  simp [remove, h]

theorem isOpen_remove (t : Token) (id : BusId) : (s.remove t).1.isOpen id = s.isOpen id := by
  cases h : t.removed with
  | true => rw [remove_of_removed s h]
  | false => exact isOpen_of_change (s.bus?_remove h) id

theorem isOpen_removeAll (tokens : List Token) (id : BusId) :
    (s.removeAll tokens).isOpen id = s.isOpen id := by
  induction tokens generalizing s with
  | nil => rfl
  | cons t rest ih => exact (ih _).trans (s.isOpen_remove t id)

theorem isOpen_unbind (h : BindingHandle) (id : BusId) :
    (s.unbind h).1.isOpen id = s.isOpen id := by
  unfold unbind
  split
  · rfl
  · exact s.isOpen_removeAll h.tokens id

theorem token_remove (t : Token) : (s.remove t).2 = { t with removed := true } := by
  unfold remove
  split
  · rename_i h
    simp [← h]
  · split <;> rfl

/-! ### Mass removal -/

theorem registry_unsubscribeAll (id : BusId) (t : EventType) :
    (s.unsubscribeAll id t).registry = (s.registry.keyFor t).1 := by
  unfold unsubscribeAll
  dsimp only
  split <;> simp [putBus]

theorem length_unsubscribeAll (id : BusId) (t : EventType) :
    (s.unsubscribeAll id t).buses.length = s.buses.length := by
  unfold unsubscribeAll
  dsimp only
  split <;> simp

theorem bus?_unsubscribeAll (id : BusId) (t : EventType) (id' : BusId) :
    (s.unsubscribeAll id t).bus? id' =
      if id' = id then
        (s.bus? id').map fun b => { b with table := b.table.dropKey (s.registry.keyFor t).2 }
      else s.bus? id' := by
  refine bus?_of_change _ (fun h => ?_) (fun b h => ?_) id'
  · simp [unsubscribeAll, bus?_keyFor, h]
  · simp [unsubscribeAll, bus?_keyFor, h, putBus]

theorem isOpen_unsubscribeAll (id : BusId) (t : EventType) (id' : BusId) :
    (s.unsubscribeAll id t).isOpen id' = s.isOpen id' :=
  isOpen_of_change (s.bus?_unsubscribeAll id t) id'

theorem registry_clear (id : BusId) : (s.clear id).registry = s.registry := by
  unfold clear
  split <;> simp [putBus]

theorem length_clear (id : BusId) : (s.clear id).buses.length = s.buses.length := by
  unfold clear
  split <;> simp

theorem bus?_clear (id id' : BusId) :
    (s.clear id).bus? id' =
      if id' = id then (s.bus? id').map fun b => { b with table := .empty } else s.bus? id' := by
  refine bus?_of_change _ (fun h => ?_) (fun b h => ?_) id'
  · simp [clear, h]
  · simp [clear, h]

theorem isOpen_clear (id id' : BusId) : (s.clear id).isOpen id' = s.isOpen id' :=
  isOpen_of_change (s.bus?_clear id) id'

/-! ### Binding -/

theorem isOpen_subscribeAll {A : Type} (s : System (Callback A)) (bus : BusId)
    (h : BindingHandle) (wiring : List (EventType × Callback A)) (id : BusId) :
    (s.subscribeAll bus h wiring).1.isOpen id = s.isOpen id := by
  induction wiring generalizing s h with
  | nil => rfl
  | cons w rest ih =>
    exact (ih _ _).trans ((isOpen_subscribe ..).trans (isOpen_congr (buses_keyFor s w.1) id))

theorem registry_subscribeAll {A : Type} (s : System (Callback A)) (bus : BusId)
    (h : BindingHandle) (wiring : List (EventType × Callback A)) :
    (s.subscribeAll bus h wiring).1.registry = s.registry.withKeys (wiring.map (·.1)) := by
  induction wiring generalizing s h with
  | nil => rfl
  | cons w rest ih =>
    rw [subscribeAll]
    dsimp only
    rw [ih, registry_subscribe_keyFor, List.map_cons, KeyRegistry.withKeys_cons]

/-- Binding asks for the keys of the types of all handlers, in order. -/
theorem registry_bind {A T : Type} (s : System (Callback A)) (bus : BusId)
    (binder : EventBinder T A) (target : Shared T) :
    (s.bind bus binder target).1.registry =
      s.registry.withKeys (binder.descriptors.flatMap (·.eventTypes)) := by
  have htypes : (binder.wiring target).map (·.1) = binder.descriptors.flatMap (·.eventTypes) := by
    simp [EventBinder.wiring, List.map_flatMap, Function.comp_def]
  rw [← htypes]
  exact registry_subscribeAll ..

/-! ### Publishing -/

theorem snapshot_beginPublish (id : BusId) (e : Event) :
    (s.beginPublish id e).2 = s.subscribersOf id e := by
  unfold beginPublish
  dsimp only
  split
  · rename_i h
    exact (List.isEmpty_iff.mp h).symm
  · rfl

theorem registry_beginPublish (id : BusId) (e : Event) :
    (s.beginPublish id e).1.registry = s.registry := by
  unfold beginPublish
  dsimp only
  split <;> simp

theorem buses_beginPublish (id : BusId) (e : Event) :
    (s.beginPublish id e).1.buses = s.buses := by
  unfold beginPublish
  dsimp only
  split <;> simp

theorem registry_endPublish (id : BusId) (e : Event) (n : Nat) :
    (s.endPublish id e n).registry = s.registry := by
  simp [endPublish]

theorem buses_endPublish (id : BusId) (e : Event) (n : Nat) :
    (s.endPublish id e n).buses = s.buses := by
  simp [endPublish]

end System

end EventWiring
