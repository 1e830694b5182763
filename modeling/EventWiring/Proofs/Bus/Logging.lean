import EventWiring.Proofs.Bus.Configuration

/-! What is logged without a publish. Every operation that is no publish adds lines to the
log, none of which is a line of a publish, and a bus that stays open keeps its
configuration. -/
namespace EventWiring

/-- Whether an entry is one of a publish: its beginning, its end, or its warning. -/
def LogEntry.isOfPublish : LogEntry → Bool
  | publishing .. => true
  | unhandled _ => true
  | published .. => true
  | _ => false

theorem LogEntry.isOfPublish_of_not_isOfBus {entry : LogEntry} (h : entry.isOfBus = false) :
    entry.isOfPublish = false := by
  cases entry <;> first | rfl | cases h

namespace System

variable {C : Type} {s t u : System C}

/-- The configuration of the bus of a name, unless it was dropped. -/
def config? (s : System C) (id : BusId) : Option BusConfig := (s.bus? id).map (·.config)

theorem config?_congr (h : t.buses = s.buses) (id : BusId) : t.config? id = s.config? id := by
  rw [config?, bus?_congr h, config?]

theorem logs_eq (s : System C) (id : BusId) :
    s.logs id = ((s.config? id).map (·.logging)).getD false := by
  rw [logs, config?, Option.map_map]
  rfl

/-! ### Configurations stay -/

/-- Buses come after those that there are, and each of these keeps its configuration as long as
it is open. -/
structure Keeps (s t : System C) : Prop where
  places : s.buses.length ≤ t.buses.length
  config : ∀ id < s.buses.length, t.config? id = s.config? id ∨ t.config? id = none

theorem Keeps.of_buses (h : t.buses = s.buses) : s.Keeps t where
  places := h ▸ Nat.le_refl _
  config id _ := .inl (config?_congr h id)

theorem Keeps.trans (h : s.Keeps t) (h' : t.Keeps u) : s.Keeps u where
  places := Nat.le_trans h.places h'.places
  config id hid := by
    rcases h'.config id (Nat.lt_of_lt_of_le hid h.places) with hsame | hnone
    · rw [hsame]
      exact h.config id hid
    · exact .inr hnone

theorem Keeps.config_of_open (h : s.Keeps t) {id : BusId} (hs : s.isOpen id = true)
    (ht : t.isOpen id = true) : t.config? id = s.config? id := by
  obtain ⟨b, hb⟩ := Option.isSome_iff_exists.mp hs
  obtain ⟨b', hb'⟩ := Option.isSome_iff_exists.mp ht
  rcases h.config id (bus?_lt hb) with hsame | hnone
  · exact hsame
  · simp [config?, hb'] at hnone

/-- A bus that logs goes on to, until it is dropped. -/
theorem Keeps.logs_eq (h : s.Keeps t) {id : BusId} (hs : s.isOpen id = true) :
    t.logs id = (s.logs id && t.isOpen id) := by
  cases ht : t.isOpen id with
  | true => rw [t.logs_eq, h.config_of_open hs ht, ← s.logs_eq, Bool.and_true]
  | false =>
    have hnone : t.bus? id = none := by simpa [isOpen] using ht
    rw [logs, hnone, Bool.and_false]
    rfl

/-- Whether no bus was dropped yet. -/
def AllOpen (s : System C) : Prop := ∀ id < s.buses.length, s.isOpen id = true

instance (s : System C) : Decidable s.AllOpen :=
  inferInstanceAs (Decidable (∀ id < s.buses.length, s.isOpen id = true))

theorem Keeps.allOpen (h : s.Keeps t) (ht : t.AllOpen) : s.AllOpen := by
  intro id hid
  have hopen : t.isOpen id = true := ht id (Nat.lt_of_lt_of_le hid h.places)
  obtain ⟨b, hb⟩ := Option.isSome_iff_exists.mp hopen
  rcases h.config id hid with hsame | hnone
  · rw [isOpen, ← Option.isSome_map (f := (·.config)), ← config?, ← hsame, config?, hb]
    rfl
  · simp [config?, hb] at hnone

/-! ### Lines that are of no publish -/

/-- What happens to a system without a publish. -/
structure Proceeds (s t : System C) : Prop where
  log : ∃ es, t.log = s.log ++ es ∧ ∀ x ∈ es, x.isOfPublish = false
  keeps : s.Keeps t

namespace Proceeds

theorem refl (s : System C) : s.Proceeds s where
  log := ⟨[], (List.append_nil _).symm, by simp⟩
  keeps := .of_buses rfl

theorem trans (h : s.Proceeds t) (h' : t.Proceeds u) : s.Proceeds u where
  log := by
    obtain ⟨es, hlog, hes⟩ := h.log
    obtain ⟨es', hlog', hes'⟩ := h'.log
    refine ⟨es ++ es', ?_, ?_⟩
    · rw [hlog', hlog, List.append_assoc]
    · intro x hx
      rcases List.mem_append.mp hx with hx | hx
      · exact hes x hx
      · exact hes' x hx
  keeps := h.keeps.trans h'.keeps

theorem report (s : System C) {es : List LogEntry} (h : ∀ x ∈ es, x.isOfPublish = false) :
    s.Proceeds (s.report es) where
  log := ⟨es, rfl, h⟩
  keeps := .of_buses rfl

theorem reportIf (s : System C) (condition : Bool) {entry : LogEntry}
    (h : entry.isOfPublish = false) : s.Proceeds (s.reportIf condition entry) := by
  cases condition with
  | false => exact .refl s
  | true =>
    apply Proceeds.report
    intro x hx
    rw [List.mem_singleton.mp hx]
    exact h

theorem keyFor (s : System C) (t : EventType) : s.Proceeds (s.keyFor t).1 where
  log := by
    unfold System.keyFor
    split
    · exact (refl s).log
    · exact ⟨_, rfl, by simp [LogEntry.isOfPublish]⟩
  keeps := .of_buses (buses_keyFor s t)

theorem putBus {id : BusId} {b b' : Bus C} (hb : s.bus? id = some b)
    (hconfig : b'.config = b.config) : s.Proceeds (s.putBus id b') where
  log := ⟨[], (List.append_nil _).symm, by simp⟩
  keeps := by
    refine ⟨Nat.le_of_eq (length_putBus ..).symm, fun id' _ => .inl ?_⟩
    rw [config?, bus?_putBus hb, config?]
    split
    · rename_i heq
      rw [heq, hb, Option.map_some, Option.map_some, hconfig]
    · rfl

/-- A bus changes something of itself, but not its configuration, and reports it. -/
theorem change {id : BusId} {b b' : Bus C} (hb : s.bus? id = some b)
    (hconfig : b'.config = b.config) (condition : Bool) {entry : LogEntry}
    (h : entry.isOfPublish = false) :
    s.Proceeds ((s.putBus id b').reportIf condition entry) :=
  (putBus hb hconfig).trans (reportIf _ condition h)

theorem openBus (s : System C) (config : BusConfig) : s.Proceeds (s.openBus config).1 where
  log := ⟨[], (List.append_nil _).symm, by simp⟩
  keeps := by
    refine ⟨by simp [System.openBus], fun id hid => .inl ?_⟩
    rw [config?, bus?_openBus, if_neg (Nat.ne_of_lt hid), config?]

theorem dropBus (s : System C) (id : BusId) : s.Proceeds (s.dropBus id) where
  log := ⟨[], (List.append_nil _).symm, by simp⟩
  keeps := by
    refine ⟨by simp [System.dropBus], fun id' _ => ?_⟩
    rw [config?, bus?_dropBus]
    split
    · exact .inr rfl
    · exact .inl rfl

theorem subscribe (s : System C) (id : BusId) (key : EventKey) (callback : C) :
    s.Proceeds (s.subscribe id key callback).1 := by
  have hkey := keyFor s key.type
  unfold System.subscribe
  dsimp only
  split
  · exact hkey
  · rename_i b hb
    exact hkey.trans (change hb (by rfl) _ (by rfl))

theorem remove (s : System C) (t : Token) : s.Proceeds (s.remove t).1 := by
  unfold System.remove
  split
  · exact .refl s
  · dsimp only
    split
    · exact .refl s
    · rename_i b hb
      exact change hb (by rfl) _ (by rfl)

theorem removeAll (s : System C) (ts : List Token) : s.Proceeds (s.removeAll ts) := by
  induction ts generalizing s with
  | nil => exact .refl s
  | cons t ts ih => exact (remove s t).trans (ih _)

theorem unbind (s : System C) (h : BindingHandle) : s.Proceeds (s.unbind h).1 := by
  unfold System.unbind
  split
  · exact .refl s
  · exact (removeAll s h.tokens).trans (report _ (by simp [LogEntry.isOfPublish]))

theorem unsubscribeAll (s : System C) (id : BusId) (t : EventType) :
    s.Proceeds (s.unsubscribeAll id t) := by
  have hkey := keyFor s t
  unfold System.unsubscribeAll
  dsimp only
  split
  · exact hkey
  · rename_i b hb
    exact hkey.trans (change hb (by rfl) _ (by rfl))

theorem clear (s : System C) (id : BusId) : s.Proceeds (s.clear id) := by
  unfold System.clear
  split
  · exact .refl s
  · rename_i b hb
    exact change hb (by rfl) _ (by rfl)

theorem count (s : System C) (id : BusId) (t : EventType) : s.Proceeds (s.count id t).1 :=
  keyFor s t

theorem subscribeAll {A : Type} (s : System (Callback A)) (bus : BusId) (h : BindingHandle)
    (wiring : List (EventType × Callback A)) : s.Proceeds (s.subscribeAll bus h wiring).1 := by
  induction wiring generalizing s h with
  | nil => exact .refl s
  | cons w rest ih => exact ((keyFor s w.1).trans (subscribe ..)).trans (ih _ _)

theorem bind {A T : Type} (s : System (Callback A)) (bus : BusId) (binder : EventBinder T A)
    (target : Shared T) : s.Proceeds (s.bind bus binder target).1 :=
  (subscribeAll s bus .empty (binder.wiring target)).trans
    (report _ (by simp [LogEntry.isOfPublish]))

end Proceeds

end System

/-! ### Requests and other operations -/

namespace Client

variable {A : Type}

theorem given_proceeds {N : Type} {c : Client A} {name : Option N} {f : N → Client A × Answer A}
    (h : ∀ n, name = some n → c.system.Proceeds (f n).1.system) :
    c.system.Proceeds (Answer.given c name f).1.system := by
  cases name with
  | none => exact .refl _
  | some n => exact h n rfl

/-- Every request but a publish adds nothing of a publish to the log. -/
theorem proceeds_step (c : Client A) {r : Request A} (plain : r.isPublish = false) :
    c.system.Proceeds (c.step idle r).1.system := by
  cases r with
  | publish => cases plain
  | openBus config => exact .openBus c.system config
  | openHandle => exact .refl _
  | dropBus bus =>
    apply given_proceeds
    intro id _
    dsimp only
    split
    · exact .refl _
    · exact .dropBus c.system id
  | subscribe bus type body =>
    exact given_proceeds fun id _ => (System.Proceeds.keyFor ..).trans (.subscribe ..)
  | subscribeKey => exact given_proceeds fun id _ => .subscribe ..
  | bind => exact given_proceeds fun id _ => .bind ..
  | remove => exact given_proceeds fun t _ => .remove ..
  | removeHeld => exact given_proceeds fun t _ => given_proceeds fun ts _ => .remove ..
  | unbind => exact given_proceeds fun ts _ => .unbind ..
  | unsubscribeAll => exact given_proceeds fun id _ => .unsubscribeAll ..
  | clear => exact given_proceeds fun id _ => .clear ..
  | count bus type => exact given_proceeds fun id _ => .count c.system id (.concrete type)
  | cloneBus => exact given_proceeds fun id _ => .refl _
  | push => exact given_proceeds fun t _ => given_proceeds fun ts _ => .refl _
  | total => exact given_proceeds fun id _ => .refl _

end Client

section Operations

variable {A ι M : Type} {T : ι → Type}

/-- The publish that an operation is, on the bus that is named. -/
def Operation.publish? (c : Client A) : Operation T A → Option (BusId × Event)
  | .request (.publish bus e) => (c.held.bus? bus).map (·, e)
  | _ => none

theorem Operation.eq_publish {c : Client A} {op : Operation T A} {id : BusId} {e : Event}
    (h : op.publish? c = some (id, e)) :
    ∃ bus, c.held.bus? bus = some id ∧ op = .request (.publish bus e) := by
  cases op with
  | request r =>
    cases r with
    | publish bus e' =>
      obtain ⟨id', hbus, hpair⟩ := Option.map_eq_some_iff.mp h
      cases hpair
      exact ⟨bus, hbus, rfl⟩
    | _ => cases h
  | _ => cases h

namespace Runner

variable [DecidableEq ι]

/-- Lines that are of no bus. -/
theorem proceeds_report {s : System (Callback A)} {es : List LogEntry}
    (h : es.filter (!·.isOfBus) = es) : s.Proceeds (s.report es) := by
  apply System.Proceeds.report
  intro x hx
  have hbus : (!x.isOfBus) = true := List.filter_eq_self.mp h x hx
  exact LogEntry.isOfPublish_of_not_isOfBus (by simpa using hbus)

/-- An operation that is no publish invokes no callback, and adds nothing of a publish to the
log. -/
theorem perform_of_plain (w : Course T A M) (c : Client A) {op : Operation T A}
    (plain : op.publish? c = none) :
    ∃ w₁ c₁ a, (∀ invoke : Runner A (Course T A M), invoke.perform w c op = some (w₁, c₁, a)) ∧
      c.system.Proceeds c₁.system := by
  cases op with
  | request r =>
    cases hr : r.isPublish with
    | false =>
      let x := c.step Client.idle r
      refine ⟨w, x.1, .answer x.2, fun invoke => ?_, c.proceeds_step hr⟩
      rw [perform, invoke.ask_of_plain w c hr]
      rfl
    | true =>
      obtain ⟨bus, e, rfl⟩ := r.eq_publish hr
      have hnone : c.held.bus? bus = none := Option.map_eq_none_iff.mp plain
      refine ⟨w, c, .answer .noSuch, fun invoke => ?_, .refl _⟩
      rw [perform, ask, hnone]
      rfl
  | keyFor type => exact ⟨_, _, _, fun _ => rfl, .keyFor ..⟩
  | registered type => exact ⟨_, _, _, fun _ => rfl, .refl _⟩
  | token place => exact ⟨_, _, _, fun _ => rfl, .refl _⟩
  | handle handle => exact ⟨_, _, _, fun _ => rfl, .refl _⟩
  | resolve type catalog model =>
    exact ⟨_, _, _, fun _ => rfl, proceeds_report (model.filter_resolveLogged catalog)⟩
  | shared type model =>
    exact ⟨_, _, _, fun _ => rfl, proceeds_report (w.binders.filter_request type model)⟩

end Runner

end Operations

end EventWiring
