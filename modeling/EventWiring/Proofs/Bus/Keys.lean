import EventWiring.Proofs.Bus.CallTree
import EventWiring.Proofs.Bus.Soundness

/-! Keys in the course of a program. Whatever a program and its callbacks do, the registry
only ever changes where a key is asked for, so it is the registry that the types asked for so
far make. Subscriptions are filed under its keys, and these are what a publish looks up. -/
namespace EventWiring

variable {A : Type}

/-! ### What a program does, one thing after the other -/

/-- The types in a request on a bus, if the bus is named. -/
def Holdings.onBus {K : Type} (held : Holdings K) (bus : Nat) (types : List EventType) :
    List EventType :=
  match held.bus? bus with
  | none => []
  | some _ => types

/-- The types whose keys a request asks for, in order. -/
def Request.asks (held : Holdings Token) : Request A → List EventType
  | .subscribe bus type _ => held.onBus bus [.concrete type]
  | .subscribeKey bus key _ => held.onBus bus [key.type]
  | .bind bus binder _ => held.onBus bus (binder.descriptors.flatMap (·.eventTypes))
  | .unsubscribeAll bus type => held.onBus bus [.concrete type]
  | .count bus type => held.onBus bus [.concrete type]
  | _ => []

/-- What a program or a callback does to keys and buses. A publish begins and ends, with what
its callbacks do in between. -/
inductive Move (A : Type) : Type 1 where
  | request (r : Request A)
  | keyFor (type : EventType)
  /-- A binder is resolved. -/
  | resolve {T : Type} (catalog : Option EventCatalog) (model : TypeModel T A)
  | beginPublish (id : BusId) (e : Event)
  | endPublish (id : BusId) (e : Event) (handlers : Nat)

/-- The types whose keys a move asks for, in order. -/
def Move.asks (held : Holdings Token) : Move A → List EventType
  | request r => r.asks held
  | keyFor type => [type]
  | _ => []

namespace Client

/-- Makes a move. -/
def move (c : Client A) : Move A → Client A
  | .request r => (c.step idle r).1
  | .keyFor type => { c with system := (c.system.keyFor type).1 }
  | .resolve catalog model => { c with system := c.system.report (model.resolveLogged catalog).2 }
  | .beginPublish id e => { c with system := (c.system.beginPublish id e).1 }
  | .endPublish id e handlers => { c with system := c.system.endPublish id e handlers }

/-- Makes moves in order. -/
def after (c : Client A) (ms : List (Move A)) : Client A := ms.foldl move c

/-- The types whose keys are asked for in the course of moves, in order. -/
def asked : Client A → List (Move A) → List EventType
  | _, [] => []
  | c, m :: ms => m.asks c.held ++ asked (c.move m) ms

theorem after_append (c : Client A) (ms ms' : List (Move A)) :
    c.after (ms ++ ms') = (c.after ms).after ms' := List.foldl_append

/-! ### The registry after a move -/

theorem registry_onBus {c : Client A} {types : List EventType} (bus : Nat)
    {f : BusId → Client A × Answer A}
    (h : ∀ id, (f id).1.system.registry = c.system.registry.withKeys types) :
    (Answer.given c (c.held.bus? bus) f).1.system.registry =
      c.system.registry.withKeys (c.held.onBus bus types) := by
  rw [Holdings.onBus]
  cases c.held.bus? bus with
  | none => rfl
  | some id => exact h id

theorem registry_given {c : Client A} {N : Type} (name : Option N) {f : N → Client A × Answer A}
    (h : ∀ n, (f n).1.system.registry = c.system.registry) :
    (Answer.given c name f).1.system.registry = c.system.registry :=
  Answer.given_ind (P := fun x : Client A × Answer A => x.1.system.registry = c.system.registry)
    rfl fun n _ => h n

theorem registry_step (c : Client A) (r : Request A) :
    (c.step idle r).1.system.registry = c.system.registry.withKeys (r.asks c.held) := by
  cases r with
  | subscribe bus type body =>
    exact registry_onBus bus fun id => c.system.registry_subscribe_keyFor id (.concrete type) _
  | subscribeKey bus key callback =>
    exact registry_onBus bus fun id => c.system.registry_subscribe id key callback
  | bind bus binder target =>
    exact registry_onBus bus fun id => c.system.registry_bind id binder target
  | unsubscribeAll bus type =>
    exact registry_onBus bus fun id => c.system.registry_unsubscribeAll id (.concrete type)
  | count bus type =>
    exact registry_onBus bus fun id => c.system.registry_keyFor (.concrete type)
  | openBus config => rfl
  | openHandle => rfl
  | cloneBus bus => exact registry_given _ fun id => rfl
  | dropBus bus =>
    refine registry_given _ fun id => ?_
    dsimp only
    split <;> rfl
  | remove token => exact registry_given _ fun t => c.system.registry_remove t
  | push token handle => exact registry_given _ fun t => registry_given _ fun ts => rfl
  | removeHeld handle place =>
    exact registry_given _ fun t => registry_given _ fun ts => c.system.registry_remove t
  | unbind handle => exact registry_given _ fun ts => c.system.registry_unbind ⟨ts⟩
  | clear bus => exact registry_given _ fun id => c.system.registry_clear id
  | total bus => exact registry_given _ fun id => rfl
  | publish bus e =>
    exact registry_given _ fun id => (Alike.publish_idle c id e).system.registry

/-- A move asks for some keys, and changes the registry by nothing else. -/
theorem registry_move (c : Client A) (m : Move A) :
    (c.move m).system.registry = c.system.registry.withKeys (m.asks c.held) := by
  cases m with
  | request r => exact c.registry_step r
  | keyFor type => exact c.system.registry_keyFor type
  | resolve catalog model => rfl
  | beginPublish id e => exact c.system.registry_beginPublish id e
  | endPublish id e handlers => exact c.system.registry_endPublish id e handlers

theorem registry_after (c : Client A) (ms : List (Move A)) :
    (c.after ms).system.registry = c.system.registry.withKeys (c.asked ms) := by
  induction ms generalizing c with
  | nil => rfl
  | cons m ms ih =>
    calc ((c.move m).after ms).system.registry
        = (c.move m).system.registry.withKeys ((c.move m).asked ms) := ih _
      _ = (c.system.registry.withKeys (m.asks c.held)).withKeys ((c.move m).asked ms) := by
        rw [registry_move]
      _ = c.system.registry.withKeys (c.asked (m :: ms)) :=
        (KeyRegistry.withKeys_append ..).symm

/-- A callback is filed under a foreign key, and a callback of a publish asks for two keys. -/
example :
    let opened : ConcreteType := ⟨1, "Opened"⟩
    let closed : ConcreteType := ⟨2, "Closed"⟩
    let c : Client Nat := start .empty
    let ms : List (Move Nat) := [.request (.openBus .default),
      .request (.subscribeKey 0 ⟨7, .concrete opened⟩ ⟨none, fun _ => some 1⟩),
      .beginPublish 0 ⟨opened, "opened", none, .null, ""⟩,
      .keyFor (.concrete closed), .request (.count 0 opened),
      .endPublish 0 ⟨opened, "opened", none, .null, ""⟩ 1]
    c.asked ms = [.concrete opened, .concrete closed, .concrete opened] ∧
      (c.after ms).system.registry.keys = [⟨1, .concrete opened⟩, ⟨2, .concrete closed⟩] := by
  decide

theorem stays_after (c : Client A) (ms : List (Move A)) :
    c.system.registry.Stays (c.after ms).system.registry := by
  rw [registry_after]
  exact KeyRegistry.stays_withKeys ..

end Client

/-! ### A key that was given -/

namespace System

variable {C : Type}

theorem get?_keyFor (s : System C) (t : EventType) :
    (s.keyFor t).1.registry.get? t = some (s.keyFor t).2 := by
  rw [registry_keyFor, key_keyFor]
  exact KeyRegistry.get?_keyFor_self ..

/-- Asking for a key that was made changes nothing. -/
theorem keyFor_of_get? {s : System C} {t : EventType} {k : EventKey}
    (h : s.registry.get? t = some k) : s.keyFor t = (s, k) := by
  rw [keyFor, h]

theorem get?_subscribe (s : System C) (id : BusId) (key : EventKey) (callback : C) :
    (s.subscribe id key callback).1.registry.get? key.type =
      some (s.registry.keyFor key.type).2 := by
  rw [registry_subscribe]
  exact KeyRegistry.get?_keyFor_self ..

/-- A publish looks up the key of its event's type. -/
theorem subscribersOf_of_get? {s : System C} {e : Event} {k : EventKey}
    (h : s.registry.get? e.eventType = some k) (id : BusId) :
    s.subscribersOf id e = ((s.bus? id).map (·.table.listFor k)).getD [] := by
  rw [subscribersOf, h]
  cases s.bus? id <;> rfl

end System

/-- What holds of the registry before a publish, and is kept by its callbacks, holds after it. -/
theorem registry_publish {W C : Type} {invoke : C → Event → W × System C → W × System C}
    {P : KeyRegistry → Prop} {e : Event}
    (keeps : ∀ k x, P x.2.registry → P (invoke k e x).2.registry) (id : BusId)
    {x : W × System C} (h : P x.2.registry) : P (publish invoke id e x).2.registry := by
  have hbegun : P (x.2.beginPublish id e).1.registry := by rwa [System.registry_beginPublish]
  unfold publish
  dsimp only
  split
  · exact hbegun
  · rw [System.registry_endPublish]
    refine List.foldlRecOn (motive := fun x : W × System C => P x.2.registry) _ _ ?_ ?_
    · exact hbegun
    · exact fun x hx (sub : Subscription C) _ => keeps sub.callback x hx

/-! ### Where moves lead -/

/-- Moves lead from one state to another. -/
def Client.Leads (c d : Client A) : Prop := ∃ ms, d = c.after ms

namespace Client.Leads

variable {c d : Client A}

theorem refl (c : Client A) : c.Leads c := ⟨[], rfl⟩

theorem trans {e : Client A} (h : c.Leads d) (h' : d.Leads e) : c.Leads e := by
  obtain ⟨ms, rfl⟩ := h
  obtain ⟨ms', rfl⟩ := h'
  exact ⟨ms ++ ms', (c.after_append ms ms').symm⟩

theorem move (c : Client A) (m : Move A) : c.Leads (c.move m) := ⟨[m], rfl⟩

/-- A publish ends with a move, unless it invoked nothing. -/
theorem afterPublish (c : Client A) (id : BusId) (e : Event) (n : Nat) :
    c.Leads ⟨c.held, c.system.afterPublish id e n⟩ := by
  unfold System.afterPublish
  split
  · exact .refl c
  · exact .move c (.endPublish id e n)

end Client.Leads

section Runs

variable {ι M : Type} {T : ι → Type} [DecidableEq ι]

/-- A shared binder is resolved, or was before. -/
theorem SharedBinders.leads (b : SharedBinders T A) (c : Client A) (type : ι)
    (model : TypeModel (T type) A) :
    c.Leads { c with system := c.system.report (b.request type model).log } := by
  rcases b.log_request type model with h | h
  · rw [h]
    exact ⟨[], by simp [Client.after, System.report]⟩
  · rw [h]
    exact .move c (.resolve none model)

/-- An operation that is no publish is a move, or changes nothing of keys and buses. -/
theorem Runner.perform_leads {invoke : Runner A (Course T A M)} {w w₁ : Course T A M}
    {c c₁ : Client A} {op : Operation T A} {a : Reply T A} (plain : op.publish? c = none)
    (h : invoke.perform w c op = some (w₁, c₁, a)) : c.Leads c₁ := by
  cases op with
  | request r =>
    cases hr : r.isPublish with
    | false =>
      rw [perform, invoke.ask_of_plain w c hr] at h
      cases h
      exact .move c (.request r)
    | true =>
      obtain ⟨bus, e, rfl⟩ := r.eq_publish hr
      have hnone : c.held.bus? bus = none := Option.map_eq_none_iff.mp plain
      rw [perform, ask, hnone] at h
      cases h
      exact .refl c
  | keyFor type =>
    cases h
    exact .move c (.keyFor type)
  | resolve type catalog model =>
    cases h
    exact .move c (.resolve catalog model)
  | shared type model =>
    cases h
    exact w.binders.leads c type model
  | registered type | token place | handle handle =>
    cases h
    exact .refl c

theorem Traces.leads {bodies : Routines T A M} {t : Errand T A M} {w w' : Course T A M}
    {c c' : Client A} {ts : List (CallTree A)} (h : Traces bodies t w c ts w' c') :
    c.Leads c' := by
  induction h with
  | done => exact .refl _
  | delivered => exact .refl _
  | plain noPublish step _ _ _ ih =>
    exact (Runner.perform_leads noPublish (step fun _ _ _ _ => none)).trans ih
  | @publish m op next id e w w₁ w' c c₁ c' calls ts _ _ _ ihc ihr =>
    have hbegun : c.Leads c₁ := (Client.Leads.move c (.beginPublish id e)).trans ihc
    exact (hbegun.trans (.afterPublish c₁ id e _)).trans ihr
  | callback _ _ ihb iho => exact ihb.trans iho

/-- A run of a routine comes to where some moves lead, its callbacks' own among them. -/
theorem Routine.leads {bodies : Routines T A M} {p : Routine T A M} {depth : Nat}
    {w w' : Course T A M} {c c' : Client A}
    (h : p.run (bodies.upTo depth) w c = some (w', c')) : c.Leads c' := by
  obtain ⟨ts, hts⟩ := (p.returns_iff_traces bodies w w' c c').mp ⟨depth, h⟩
  exact hts.leads

end Runs

/-! ### Keys in tables -/

namespace Client

variable {c d : Client A}

theorem Occurs.alike_move (hd : d.Occurs) (h : c.Alike d) (m : Move A) :
    ∃ d', d'.Occurs ∧ (c.move m).Alike d' := by
  cases m with
  | request r => exact ⟨_, hd.request r, (h.step r).1⟩
  | keyFor type => exact ⟨_, hd.keyFor type, h.held, h.system.keyFor type⟩
  | resolve catalog model => exact ⟨d, hd, h.held, h.system.registry, h.system.buses⟩
  | beginPublish id e => exact ⟨d, hd, h.held, (System.Alike.beginPublish ..).trans h.system⟩
  | endPublish id e n => exact ⟨d, hd, h.held, (System.Alike.endPublish ..).trans h.system⟩

theorem Occurs.alike_after (hd : d.Occurs) (h : c.Alike d) (ms : List (Move A)) :
    ∃ d', d'.Occurs ∧ (c.after ms).Alike d' := by
  induction ms generalizing c d with
  | nil => exact ⟨d, hd, h⟩
  | cons m ms ih =>
    obtain ⟨d', hd', h'⟩ := hd.alike_move h m
    exact ih hd' h'

/-- Every key in a table is the registry's for its type. -/
theorem get?_of_mem_keys (registry : KeyRegistry) (ms : List (Move A)) {id : BusId}
    {b : Bus (Callback A)} (hb : ((start registry).after ms).system.bus? id = some b)
    {k : EventKey} (hk : k ∈ b.table.keys) :
    ((start registry).after ms).system.registry.get? k.type = some k := by
  obtain ⟨d, hd, h⟩ := (Occurs.start registry).alike_after (.refl _) ms
  rw [h.system.bus?] at hb
  obtain ⟨entry, hentry, rfl⟩ := List.mem_map.mp hk
  rw [h.system.registry]
  exact (hd.sound hb).registered entry hentry

/-- From one system to the next, a callback for a type was filed on a bus, last under the key of
the token that was returned for it. From then on a publish of the type looks under that key, on
every bus. -/
structure FiledForGood (s s' : System (Callback A)) (id : BusId) (type : EventType)
    (callback : Callback A) (t : Token) : Prop where
  typed : t.key.type = type
  last : ∃ b b', s.bus? id = some b ∧ s'.bus? id = some b' ∧
    b'.table.listFor t.key = b.table.listFor t.key ++ [⟨t.id, callback⟩]
  lookedUp : ∀ held ms e, e.eventType = type → ∀ id',
    let d := (⟨held, s'⟩ : Client A).after ms
    d.system.subscribersOf id' e = ((d.system.bus? id').map (·.table.listFor t.key)).getD []

theorem filedForGood_subscribe (s : System (Callback A)) {id : BusId} {b : Bus (Callback A)}
    (hb : s.bus? id = some b) (key : EventKey) (callback : Callback A) :
    FiledForGood s (s.subscribe id key callback).1 id key.type callback
      (s.subscribe id key callback).2 := by
  rw [System.token_subscribe hb]
  have hafter := s.bus?_subscribe id key callback id
  rw [if_pos rfl, hb] at hafter
  refine ⟨KeyRegistry.type_keyFor .., ⟨b, _, hb, hafter, ?_⟩, ?_⟩
  · rw [SubscriberTable.listFor_file, if_pos rfl]
  · intro held ms e htype id'
    have hmade : (s.subscribe id key callback).1.registry.get? e.eventType =
        some (s.registry.keyFor key.type).2 := by
      rw [htype]
      exact s.get?_subscribe id key callback
    have hstays := (⟨held, (s.subscribe id key callback).1⟩ : Client A).stays_after ms
    exact System.subscribersOf_of_get? (hstays.get? _ _ hmade) id'

/-- Wherever a program and its callbacks have come to, the registry has one key for each type
that a key was asked for, and no other. The keys are numbered from 1 in the order of first use,
and neither two types nor two keys have a number in common. A key that was given once is the one
that is found and given ever after. A publish makes a key only if a callback of it does. Every
subscription is under the registry's key for its type, whatever the key it was made under, and
there a publish looks. Routines see the same keys when they look one up, and their runs, in
which callbacks publish in turn, lead nowhere else. -/
theorem one_key_per_type (ms : List (Move A)) :
    let c := (start .empty).after ms
    let r := c.system.registry
    let types := (start .empty).asked ms
    (r.Assigns types ∧ r.size = types.toFinset.card ∧
      (∀ t, (∃ k, r.get? t = some k) ↔ t ∈ types) ∧
      ∀ t u k l, r.get? t = some k → r.get? u = some l →
        (k = l ↔ t = u) ∧ (k.id = l.id ↔ t = u)) ∧
    (∀ ms', r.Stays (c.after ms').system.registry) ∧
    (∀ t ms', let k := (c.system.keyFor t).2
      let s := ((c.move (.keyFor t)).after ms').system
      s.registry.get? t = some k ∧ s.keyFor t = (s, k)) ∧
    (∀ (W : Type) (invoke : Callback A → Event → W × System (Callback A) → W × System (Callback A))
      (id : BusId) (e : Event) (w : W) (P : KeyRegistry → Prop), P r →
      (∀ k x, P x.2.registry → P (invoke k e x).2.registry) →
        P (EventWiring.publish invoke id e (w, c.system)).2.registry) ∧
    (∀ id b, c.system.bus? id = some b → (∀ k ∈ b.table.keys, r.get? k.type = some k) ∧
      ∀ key callback, let x := c.system.subscribe id key callback
        FiledForGood c.system x.1 id key.type callback x.2) ∧
    ∀ (ι M : Type) (T : ι → Type) [DecidableEq ι] (bodies : Routines T A M) (depth : Nat)
      (w : Course T A M),
      (∀ t, (bodies.upTo depth).perform w c (.registered t) = some (w, c, .key (r.get? t))) ∧
      ∀ (p : Routine T A M) (w' : Course T A M) (c' : Client A),
        p.run (bodies.upTo depth) w c = some (w', c') → ∃ ms', c' = c.after ms' := by
  intro c r types
  have hassigns : r.Assigns types := by
    show c.system.registry.Assigns types
    rw [registry_after]
    exact KeyRegistry.assigns_ofTypes types
  refine ⟨⟨hassigns, hassigns.size_eq_card, fun t => hassigns.exists_get?_iff,
    fun t u k l => hassigns.eq_iff⟩, c.stays_after, ?_, ?_, ?_, ?_⟩
  · intro t ms' k s
    have hkey : s.registry.get? t = some k :=
      (stays_after _ ms').get? t k (c.system.get?_keyFor t)
    exact ⟨hkey, System.keyFor_of_get? hkey⟩
  · intro W invoke id e w P hr keeps
    exact registry_publish keeps id hr
  · intro id b hb
    exact ⟨fun k hk => get?_of_mem_keys .empty ms hb hk, filedForGood_subscribe c.system hb⟩
  · intro ι M T _ bodies depth w
    exact ⟨fun t => rfl, fun p w' c' hrun => Routine.leads hrun⟩

end Client

end EventWiring
