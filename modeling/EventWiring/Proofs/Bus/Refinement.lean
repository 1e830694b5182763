import EventWiring.Proofs.Bus.Matching
import EventWiring.Proofs.Bus.Twin

/-! Keyed buses do what their plain account does. A program cannot tell them
apart: whatever requests it makes, of however many buses, every answer is the one
that the plain account gives. -/
namespace EventWiring

open Answer (given)

variable {A : Type}

/-! ### Publishing -/

namespace Client

theorem notes_foldl (invoke : Callback A → Event → Client A → Client A) (e : Event)
    (subs : List (Subscription (Callback A)))
    (w : (Holdings Token × List (Invocation A)) × System (Callback A)) :
    (subs.foldl (fun w sub => noted invoke sub.callback e w) w).1.2 =
      w.1.2 ++ subs.map fun sub => ⟨sub.callback, e⟩ := by
  induction subs generalizing w with
  | nil => exact (List.append_nil _).symm
  | cons sub rest ih =>
    rw [List.foldl_cons, ih, List.map_cons]
    exact List.append_assoc w.1.2 [_] _

/-- Whatever callbacks do, a publish invokes what was filed when it began. -/
theorem calls_publish (invoke : Callback A → Event → Client A → Client A) (id : BusId) (e : Event)
    (c : Client A) :
    (c.publish invoke id e).2 =
      (c.system.subscribersOf id e).map fun sub => ⟨sub.callback, e⟩ := by
  have hsubs := c.system.snapshot_beginPublish id e
  unfold publish EventWiring.publish
  dsimp only
  rw [hsubs]
  split
  · rename_i hempty
    rw [List.isEmpty_iff.mp hempty]
    rfl
  · rw [notes_foldl]
    rfl

theorem foldl_noted_idle (e : Event) (subs : List (Subscription (Callback A)))
    (w : (Holdings Token × List (Invocation A)) × System (Callback A)) :
    (subs.foldl (fun w sub => noted idle sub.callback e w) w).1.1 = w.1.1 ∧
      (subs.foldl (fun w sub => noted idle sub.callback e w) w).2 = w.2 := by
  induction subs generalizing w with
  | nil => exact ⟨rfl, rfl⟩
  | cons sub rest ih => exact ih _

/-- Callbacks that do nothing leave the buses and what the program holds. -/
theorem publish_idle (c : Client A) (id : BusId) (e : Event) :
    ∃ s, (c.publish idle id e).1 = ⟨c.held, s⟩ ∧
      s.registry = c.system.registry ∧ s.buses = c.system.buses := by
  have hreg := c.system.registry_beginPublish id e
  have hbuses := c.system.buses_beginPublish id e
  unfold publish EventWiring.publish
  dsimp only
  split
  · exact ⟨_, rfl, hreg, hbuses⟩
  · obtain ⟨hheld, hsystem⟩ := foldl_noted_idle e (c.system.beginPublish id e).2
      ((c.held, []), (c.system.beginPublish id e).1)
    rw [hheld, hsystem]
    exact ⟨_, rfl, (System.registry_endPublish ..).trans hreg,
      (System.buses_endPublish ..).trans hbuses⟩

end Client

/-! ### Programs at the same point -/

/-- A program with keyed buses and one with their plain account are at the same
point: the buses agree, each token stands for the ticket at its place, and every
name that is held stands for an open bus. -/
structure Mirrors (c : Client A) (f : FlatClient A) (number : Nat → Nat) : Prop where
  agree : Twin.Agree ⟨c.system, f.buses, number⟩
  held : c.held.Match (Twin.Stands ⟨c.system, f.buses, number⟩) f.held
  opened : ∀ id, some id ∈ c.held.buses → c.system.isOpen id = true

def Refines (c : Client A) (f : FlatClient A) : Prop := ∃ number, Mirrors c f number

/-- The same point was reached with the same answer. -/
def SameAnswer (x : Client A × Answer A) (y : FlatClient A × Answer A) : Prop :=
  Refines x.1 y.1 ∧ x.2 = y.2

variable {c : Client A} {f : FlatClient A} {number : Nat → Nat}

namespace Mirrors

theorem start (registry : KeyRegistry) :
    Mirrors (Client.start registry : Client A) .start fun _ => 0 := by
  have hnone : ∀ {l}, l ∉ (FlatBuses.empty : FlatBuses (Callback A)).live := List.not_mem_nil
  refine ⟨⟨rfl, ?_, ?_, ?_, ?_⟩, .empty, ?_⟩
  · exact fun l hl => absurd hl hnone
  · exact fun l hl => absurd hl hnone
  · exact fun l hl => absurd hl hnone
  · exact fun id b hb => absurd (System.bus?_lt hb) (Nat.not_lt_zero id)
  · exact fun id hid => absurd hid List.not_mem_nil

/-- The buses move on, and the program holds what it held. -/
theorem advance (h : Mirrors c f number) {s : System (Callback A)} {b : FlatBuses (Callback A)}
    {number' : Nat → Nat} (agree : Twin.Agree ⟨s, b, number'⟩)
    (keeps : Twin.Keeps ⟨c.system, f.buses, number⟩ ⟨s, b, number'⟩)
    (opened : ∀ id, s.isOpen id = c.system.isOpen id) :
    Mirrors ⟨c.held, s⟩ ⟨f.held, b⟩ number' :=
  ⟨agree, h.held.imp keeps, fun id hid => (opened id).trans (h.opened id hid)⟩

theorem isOpen (h : Mirrors c f number) {bus : Nat} {id : BusId}
    (hid : c.held.bus? bus = some id) : c.system.isOpen id = true :=
  h.opened id (List.mem_of_getElem? (Option.join_eq_some_iff.mp hid))

end Mirrors

/-! ### Names -/

/-- The same point was reached with the same answer, and each token stands for what
it stood for. -/
def Advances (c : Client A) (f : FlatClient A) (number : Nat → Nat) (x : Client A × Answer A)
    (y : FlatClient A × Answer A) : Prop :=
  ∃ number', Mirrors x.1 y.1 number' ∧
    Twin.Keeps ⟨c.system, f.buses, number⟩ ⟨x.1.system, y.1.buses, number'⟩ ∧ x.2 = y.2

/-- Nothing was done, with the same answer. -/
theorem Mirrors.stays (h : Mirrors c f number) (a : Answer A) :
    Advances c f number (c, a) (f, a) := ⟨number, h, .refl _, rfl⟩

/-- Names that stand for related things, or both for nothing. -/
theorem given_same {N N' : Type} {R : N → N' → Prop} (h : Mirrors c f number) {name : Option N}
    {name' : Option N'} (hnames : Option.Rel R name name') {x : N → Client A × Answer A}
    {y : N' → FlatClient A × Answer A}
    (hxy : ∀ n n', name = some n → name' = some n' → R n n' →
      Advances c f number (x n) (y n')) :
    Advances c f number (given c name x) (given f name' y) :=
  given_rel (P := Advances c f number) hnames (h.stays .noSuch) hxy

theorem given_bus (h : Mirrors c f number) (bus : Nat) {x : BusId → Client A × Answer A}
    {y : BusId → FlatClient A × Answer A}
    (hxy : ∀ id, c.system.isOpen id = true → Advances c f number (x id) (y id)) :
    Advances c f number (given c (c.held.bus? bus) x) (given f (f.held.bus? bus) y) :=
  given_same h (h.held.bus?_rel bus) fun id _ hid _ he => he ▸ hxy id (h.isOpen hid)

/-! ### Requests -/

namespace Mirrors

theorem openBus (h : Mirrors c f number) (config : BusConfig) :
    Advances c f number (c.step Client.idle (.openBus config)) (f.step (.openBus config)) := by
  have hkeeps := Twin.keeps_openBus h.agree config
  have hheld := (h.held.imp hkeeps).addBus h.agree.opened
  refine ⟨number, ⟨h.agree.openBus config, hheld, fun id hid => ?_⟩, hkeeps, rfl⟩
  refine System.isOpen_openBus c.system config ?_
  rcases List.mem_append.mp hid with hid | hid
  · exact .inr (h.opened id hid)
  · exact .inl (Option.some.inj (List.mem_singleton.mp hid))

theorem cloneBus (h : Mirrors c f number) (bus : Nat) :
    Advances c f number (c.step Client.idle (.cloneBus bus)) (f.step (.cloneBus bus)) := by
  refine given_bus h bus fun id hopen =>
    ⟨number, ⟨h.agree, h.held.addBus rfl, ?_⟩, .refl _, rfl⟩
  intro id' hid
  rcases List.mem_append.mp hid with hid | hid
  · exact h.opened id' hid
  · exact Option.some.inj (List.mem_singleton.mp hid) ▸ hopen

/-- A bus goes with its last name, so that the names which are left stand for
other buses. -/
theorem dropBus (h : Mirrors c f number) (bus : Nat) :
    Advances c f number (c.step Client.idle (.dropBus bus)) (f.step (.dropBus bus)) := by
  refine given_bus h bus fun id _ => ?_
  have hheld := h.held.dropBus bus
  have hopened : ∀ id', some id' ∈ (c.held.dropBus bus).buses → c.system.isOpen id' = true := by
    intro id' hid
    rcases List.mem_or_eq_of_mem_set hid with hid | hid
    · exact h.opened id' hid
    · cases hid
  show Advances c f number (⟨_, if _ then _ else _⟩, .done) (⟨_, if _ then _ else _⟩, .done)
  rw [← hheld.names]
  split
  · exact ⟨number, ⟨h.agree, hheld, hopened⟩, .refl _, rfl⟩
  · rename_i hlast
    obtain ⟨hagree, hkeeps⟩ := Twin.dropBus_spec h.agree id
    refine ⟨number, ⟨hagree, hheld.imp hkeeps, fun id' hid => ?_⟩, hkeeps, rfl⟩
    exact System.isOpen_dropBus c.system (fun he => hlast (Holdings.names_iff.mpr (he ▸ hid)))
      (hopened id' hid)

/-- A new token and its ticket take the next place for tokens. -/
theorem addToken (h : Mirrors c f number) {t : Token} {n : Nat}
    (ht : Twin.Stands ⟨c.system, f.buses, number⟩ t n) :
    Mirrors ⟨c.held.addToken t, c.system⟩ ⟨f.held.addToken n, f.buses⟩ number :=
  ⟨h.agree, h.held.addToken ht, h.opened⟩

theorem subscribe (h : Mirrors c f number) (bus : Nat) (type : ConcreteType) (body : Event → A) :
    Advances c f number (c.step Client.idle (.subscribe bus type body))
      (f.step (.subscribe bus type body)) := by
  refine given_bus h bus fun id hopen => ?_
  obtain ⟨number', hagree, hkeeps, hstands⟩ :=
    Twin.subscribe_spec h.agree hopen (.concrete type) (.typed (.concrete type) body)
  have hsame := h.advance hagree hkeeps fun id' =>
    (System.isOpen_subscribe ..).trans (System.isOpen_congr (System.buses_keyFor ..) id')
  exact ⟨number', hsame.addToken hstands, hkeeps, rfl⟩

theorem subscribeKey (h : Mirrors c f number) (bus : Nat) (key : EventKey)
    (callback : Callback A) :
    Advances c f number (c.step Client.idle (.subscribeKey bus key callback))
      (f.step (.subscribeKey bus key callback)) := by
  refine given_bus h bus fun id hopen => ?_
  obtain ⟨b, hb⟩ := Option.isSome_iff_exists.mp hopen
  have hkeeps := Twin.keeps_subscribe h.agree hb key callback
  have hsame := h.advance (h.agree.subscribe hb key callback) hkeeps
    fun _ => System.isOpen_subscribe ..
  exact ⟨_, hsame.addToken (Twin.stands_subscribe h.agree hb key callback), hkeeps, rfl⟩

theorem bind {T : Type} (h : Mirrors c f number) (bus : Nat) (binder : EventBinder T A)
    (target : Shared T) :
    Advances c f number (c.step Client.idle (.bind bus binder target))
      (f.step (.bind bus binder target)) := by
  refine given_bus h bus fun id hopen => ?_
  obtain ⟨number', hagree, hkeeps, hstands⟩ := Twin.bind_spec h.agree hopen binder target
  have hsame := h.advance hagree hkeeps fun _ => System.isOpen_subscribeAll ..
  exact ⟨number', ⟨hsame.agree, hsame.held.addHandle hstands, hsame.opened⟩, hkeeps, rfl⟩

theorem remove (h : Mirrors c f number) (token : Nat) :
    Advances c f number (c.step Client.idle (.remove token)) (f.step (.remove token)) := by
  refine given_same h (h.held.token? token) fun t n _ hn ht => ?_
  obtain ⟨hagree, hkeeps, hused⟩ := Twin.remove_spec h.agree ht
  have hsame := h.advance hagree hkeeps (c.system.isOpen_remove t)
  exact ⟨number, ⟨hsame.agree, hsame.held.setToken hn hused, hsame.opened⟩, hkeeps, rfl⟩

theorem openHandle (h : Mirrors c f number) :
    Advances c f number (c.step Client.idle .openHandle) (f.step .openHandle) :=
  ⟨number, ⟨h.agree, h.held.addHandle .nil, h.opened⟩, .refl _, rfl⟩

theorem push (h : Mirrors c f number) (token handle : Nat) :
    Advances c f number (c.step Client.idle (.push token handle))
      (f.step (.push token handle)) := by
  refine given_same h (h.held.token? token) fun t n _ _ ht => ?_
  refine given_same h (h.held.handle? handle) fun ts ns _ _ hts => ?_
  exact ⟨number, ⟨h.agree, h.held.moveToken token handle ht hts, h.opened⟩, .refl _, rfl⟩

theorem removeHeld (h : Mirrors c f number) (handle place : Nat) :
    Advances c f number (c.step Client.idle (.removeHeld handle place))
      (f.step (.removeHeld handle place)) := by
  refine given_same h (h.held.heldToken? handle place) fun t n ht hn hstands => ?_
  obtain ⟨ts, hts, -⟩ := Option.bind_eq_some_iff.mp ht
  rw [hts]
  obtain ⟨hagree, hkeeps, hused⟩ := Twin.remove_spec h.agree hstands
  have hsame := h.advance hagree hkeeps (c.system.isOpen_remove t)
  exact ⟨number, ⟨hsame.agree, hsame.held.setHeldToken hts hn hused, hsame.opened⟩, hkeeps, rfl⟩

theorem unbind (h : Mirrors c f number) (handle : Nat) :
    Advances c f number (c.step Client.idle (.unbind handle)) (f.step (.unbind handle)) := by
  refine given_same h (h.held.handle? handle) fun ts ns _ _ hts => ?_
  obtain ⟨hagree, hkeeps, hempty⟩ := Twin.unbind_spec h.agree hts
  have hsame := h.advance hagree hkeeps (c.system.isOpen_unbind ⟨ts⟩)
  refine ⟨number, ⟨hsame.agree, hsame.held.setHandle handle ?_, hsame.opened⟩, hkeeps, rfl⟩
  rw [hempty]
  exact .nil

theorem unsubscribeAll (h : Mirrors c f number) (bus : Nat) (type : ConcreteType) :
    Advances c f number (c.step Client.idle (.unsubscribeAll bus type))
      (f.step (.unsubscribeAll bus type)) := by
  refine given_bus h bus fun id _ => ?_
  obtain ⟨hagree, hkeeps⟩ := Twin.unsubscribeAll_spec h.agree id (.concrete type)
  exact ⟨number, h.advance hagree hkeeps (c.system.isOpen_unsubscribeAll id _), hkeeps, rfl⟩

theorem clear (h : Mirrors c f number) (bus : Nat) :
    Advances c f number (c.step Client.idle (.clear bus)) (f.step (.clear bus)) := by
  refine given_bus h bus fun id _ => ?_
  obtain ⟨hagree, hkeeps⟩ := Twin.clear_spec h.agree id
  exact ⟨number, h.advance hagree hkeeps (c.system.isOpen_clear id), hkeeps, rfl⟩

/-- Counting may make a key, which nothing else shows. -/
theorem count (h : Mirrors c f number) (bus : Nat) (type : ConcreteType) :
    Advances c f number (c.step Client.idle (.count bus type)) (f.step (.count bus type)) := by
  refine given_bus h bus fun id hopen => ?_
  have hkeeps := Twin.keeps_keyFor (p := ⟨c.system, f.buses, number⟩) (.concrete type)
  refine ⟨number, h.advance (h.agree.keyFor _) hkeeps fun id' =>
    System.isOpen_congr (System.buses_keyFor ..) id', hkeeps, ?_⟩
  obtain ⟨b, hb⟩ := Option.isSome_iff_exists.mp hopen
  exact congrArg Answer.number (h.agree.count hb (.concrete type))

theorem total (h : Mirrors c f number) (bus : Nat) :
    Advances c f number (c.step Client.idle (.total bus)) (f.step (.total bus)) := by
  refine given_bus h bus fun id hopen => ⟨number, h, .refl _, ?_⟩
  obtain ⟨b, hb⟩ := Option.isSome_iff_exists.mp hopen
  exact congrArg Answer.number (h.agree.total hb)

/-- The answer to a publish does not hang on what callbacks do. -/
theorem publish_answer (h : Mirrors c f number) (invoke : Callback A → Event → Client A → Client A)
    (bus : Nat) (e : Event) :
    (c.step invoke (.publish bus e)).2 = (f.step (.publish bus e)).2 := by
  simp only [Client.step, FlatClient.step, ← h.held.bus? bus]
  cases hid : c.held.bus? bus with
  | none => rfl
  | some id =>
    obtain ⟨b, hb⟩ := Option.isSome_iff_exists.mp (h.isOpen hid)
    have hsubs : c.system.subscribersOf id e = _ := h.agree.subscribersOf hb e
    refine congrArg Answer.invoked ?_
    rw [Client.calls_publish, hsubs, Twin.lists, List.map_map]
    rfl

theorem publish (h : Mirrors c f number) (bus : Nat) (e : Event) :
    Advances c f number (c.step Client.idle (.publish bus e)) (f.step (.publish bus e)) := by
  have hanswer := h.publish_answer Client.idle bus e
  simp only [Client.step, FlatClient.step, ← h.held.bus? bus] at hanswer ⊢
  cases hid : c.held.bus? bus with
  | none => exact h.stays .noSuch
  | some id =>
    rw [hid] at hanswer
    obtain ⟨s, hpublish, hreg, hbuses⟩ := c.publish_idle id e
    have hkeeps := Twin.keeps_congr (p := ⟨c.system, f.buses, number⟩) hreg hbuses
    have hsame := h.advance (h.agree.congr hreg hbuses) hkeeps (System.isOpen_congr hbuses)
    rw [← hpublish] at hsame
    refine ⟨number, hsame, ?_, hanswer⟩
    show Twin.Keeps _ ⟨(c.publish Client.idle id e).1.system, _, _⟩
    rw [hpublish]
    exact hkeeps

/-- Every request is answered alike and leads to the same point. -/
theorem advances (h : Mirrors c f number) (r : Request A) :
    Advances c f number (c.step Client.idle r) (f.step r) := by
  cases r with
  | openBus config => exact h.openBus config
  | cloneBus bus => exact h.cloneBus bus
  | dropBus bus => exact h.dropBus bus
  | subscribe bus type body => exact h.subscribe bus type body
  | subscribeKey bus key callback => exact h.subscribeKey bus key callback
  | bind bus binder target => exact h.bind bus binder target
  | remove token => exact h.remove token
  | openHandle => exact h.openHandle
  | push token handle => exact h.push token handle
  | removeHeld handle place => exact h.removeHeld handle place
  | unbind handle => exact h.unbind handle
  | unsubscribeAll bus type => exact h.unsubscribeAll bus type
  | clear bus => exact h.clear bus
  | count bus type => exact h.count bus type
  | total bus => exact h.total bus
  | publish bus e => exact h.publish bus e

theorem step (h : Mirrors c f number) (r : Request A) :
    SameAnswer (c.step Client.idle r) (f.step r) := by
  obtain ⟨number', hnext, -, hanswer⟩ := h.advances r
  exact ⟨⟨number', hnext⟩, hanswer⟩

end Mirrors

/-! ### Runs -/

theorem Mirrors.run (h : Mirrors c f number) (requests : List (Request A)) :
    ∃ number', Mirrors (c.run Client.idle requests) (f.run requests) number' ∧
      Twin.Keeps ⟨c.system, f.buses, number⟩
        ⟨(c.run Client.idle requests).system, (f.run requests).buses, number'⟩ := by
  induction requests generalizing c f number with
  | nil => exact ⟨number, h, .refl _⟩
  | cons r rest ih =>
    obtain ⟨number', hnext, hkeeps, -⟩ := h.advances r
    obtain ⟨number'', hlast, hkeeps'⟩ := ih hnext
    exact ⟨number'', hlast, hkeeps.trans hkeeps'⟩

theorem Refines.run (h : Refines c f) (requests : List (Request A)) :
    Refines (c.run Client.idle requests) (f.run requests) := by
  obtain ⟨number, h⟩ := h
  obtain ⟨number', h, -⟩ := h.run requests
  exact ⟨number', h⟩

theorem Refines.answers (h : Refines c f) (requests : List (Request A)) :
    c.answers Client.idle requests = f.answers requests := by
  induction requests generalizing c f with
  | nil => rfl
  | cons r rest ih =>
    obtain ⟨number, h⟩ := h
    obtain ⟨hnext, hanswer⟩ := h.step r
    rw [Client.answers, FlatClient.answers, hanswer, ih hnext]

theorem Refines.publish_answer (h : Refines c f)
    (invoke : Callback A → Event → Client A → Client A) (bus : Nat) (e : Event) :
    (c.step invoke (.publish bus e)).2 = (f.step (.publish bus e)).2 := by
  obtain ⟨number, h⟩ := h
  exact h.publish_answer invoke bus e

/-- The first subscription of each bus has the same number there. Removing one
leaves the other. -/
example :
    let opened : ConcreteType := ⟨1, "Opened"⟩
    let e : Event := ⟨opened, "opened", none, .null, ""⟩
    (Client.start .empty).answers Client.idle
        [.openBus .default, .openBus .default, .subscribe 0 opened fun _ => 1,
          .subscribe 1 opened fun _ => 2, .remove 0, .publish 0 e, .publish 1 e] =
      [.done, .done, .done, .done, .done, .invoked [],
        .invoked [⟨.typed (.concrete opened) fun _ => 2, e⟩]] := by
  rfl

end EventWiring
