import EventWiring.Proofs.Bus.Alike
import EventWiring.Proofs.Bus.Bindings
import EventWiring.Proofs.Handler.Resolution

/-! Lists with repetitions. A handler is wired once for each entry of its list, so a
type that two entries stand for, in one spelling or in two, is kept twice, and an event
of that type runs the handler twice. A handler runs at most once for every event exactly
if no two entries of its list stand for one type. -/
namespace EventWiring

variable {T A : Type}

/-! ### Repetitions in a list -/

namespace Resolution

variable {catalog : Option EventCatalog}

/-- No two entries of the list stand for one type. -/
def ListsOnce (catalog : Option EventCatalog) (a : Annotation) : Prop :=
  a.events.Pairwise fun r r' => ∀ t, Names catalog r t → ¬Names catalog r' t

theorem Names.nodup_iff {rs : List EventRef} {ts : List EventType}
    (h : List.Forall₂ (Names catalog) rs ts) :
    ts.Nodup ↔ rs.Pairwise fun r r' => ∀ t, Names catalog r t → ¬Names catalog r' t := by
  induction h with
  | nil => exact iff_of_true .nil .nil
  | @cons r t rs ts ht hrest ih =>
    rw [List.nodup_cons, List.pairwise_cons, ih]
    refine and_congr_left fun _ => ?_
    constructor
    · intro hnew r' hr' u hu hu'
      obtain ⟨t', ht', hnames⟩ := exists_mem_of_forall₂ hrest.flip hr'
      have hsame : t = t' := (ht.unique hu).trans (hu'.unique hnames)
      exact hnew (hsame ▸ ht')
    · intro hapart hmem
      obtain ⟨r', hr', hnames⟩ := exists_mem_of_forall₂ hrest hmem
      exact hapart r' hr' t ht hnames

/-- A descriptor has a type twice exactly if the list has. -/
theorem Describes.nodup_iff {d : MethodDecl T A} {a : Annotation} {h : HandlerDescriptor T A}
    (hd : Describes catalog d h) (ha : d.annotation = some a) :
    h.eventTypes.Nodup ↔ ListsOnce catalog a := by
  obtain ⟨a', ha', htypes⟩ := hd.types
  obtain rfl : a = a' := Option.some.inj (ha.symm.trans ha')
  split at htypes
  · rename_i hevents
    obtain ⟨p, -, hp⟩ := htypes
    refine iff_of_true ?_ ?_
    · rw [hp]
      exact List.nodup_singleton p
    · rw [ListsOnce, hevents]
      exact .nil
  · exact Names.nodup_iff htypes

end Resolution

/-! ### Repetitions in what is invoked -/

theorem length_flatMap_replicate {α β : Type} (xs : List α) (n : α → Nat) (f : α → β) :
    (xs.flatMap fun x => List.replicate (n x) (f x)).length =
      (xs.filter fun x => 0 < n x).length + (xs.map fun x => n x - 1).sum := by
  induction xs with
  | nil => rfl
  | cons x rest ih =>
    rw [List.flatMap_cons, List.length_append, List.length_replicate, ih, List.filter_cons,
      List.map_cons, List.sum_cons]
    by_cases hx : 0 < n x
    · simp only [hx, decide_true, if_true, List.length_cons]
      omega
    · simp only [hx, decide_false, Bool.false_eq_true, if_false]
      omega

/-- Repeating each element of a list some times leaves those that are repeated at all
once exactly if none is repeated twice. -/
theorem flatMap_replicate_eq_filter_iff {α β : Type} {xs : List α} {n : α → Nat} {f : α → β} :
    (xs.flatMap fun x => List.replicate (n x) (f x)) =
        (xs.filter fun x => 0 < n x).map f ↔ ∀ x ∈ xs, n x ≤ 1 := by
  constructor
  · intro h x hx
    have hlength := congrArg List.length h
    rw [length_flatMap_replicate, List.length_map] at hlength
    have hzero : (xs.map fun x => n x - 1).sum = 0 := by omega
    have := List.sum_eq_zero_iff_forall_eq_nat.mp hzero (n x - 1) (List.mem_map_of_mem hx)
    omega
  · intro h
    induction xs with
    | nil => rfl
    | cons x rest ih =>
      rw [List.flatMap_cons, List.filter_cons, ih fun y hy => h y (List.mem_cons_of_mem x hy)]
      have hx : n x ≤ 1 := h x List.mem_cons_self
      obtain hn | hn : n x = 0 ∨ n x = 1 := by omega
      · simp [hn]
      · simp [hn]

/-- A target that is bound on a bus without subscriptions has its handlers invoked, and
nothing else is. -/
theorem Client.Reached.publish_bind {c : Client A} (h : c.Reached) {bus : Nat} {id : BusId}
    (hbus : c.held.bus? bus = some id) (hempty : c.system.total id = 0) (b : EventBinder T A)
    (target : Shared T) (invoke : Callback A → Event → Client A → Client A) (e : Event) :
    ((c.step invoke (.bind bus b target)).1.step invoke (.publish bus e)).2 =
      .invoked (Binding.calls ⟨id, b, target, true⟩ e) := by
  obtain ⟨f, number, h⟩ := h.mirrors
  obtain ⟨number', hnext, -, -⟩ := h.bind bus b target
  refine (hnext.publish_answer invoke bus e).trans ?_
  have hflat : f.held.bus? bus = some id := (h.held.bus? bus).symm.trans hbus
  obtain ⟨opened, hopened⟩ := Option.isSome_iff_exists.mp (h.isOpen hbus)
  -- nothing was live on the bus
  have hnone : f.buses.live.filter (·.bus = id) = [] :=
    List.length_eq_zero_iff.mp ((h.agree.total hopened).symm.trans hempty)
  have hbefore : f.buses.on id e.eventType = [] := by
    rw [FlatBuses.on, List.filter_eq_nil_iff]
    intro l hl hon
    have hlive : l ∈ f.buses.live.filter (·.bus = id) :=
      List.mem_filter.mpr ⟨hl, decide_eq_true (of_decide_eq_true hon).1⟩
    rw [hnone] at hlive
    cases hlive
  -- all that is live on it now is what was bound
  let tickets := (f.buses.subscribeAll id (b.wiring target)).2
  have hholds : Binding.Holds ⟨id, b, target, true⟩ tickets :=
    f.buses.length_subscribeAll id (b.wiring target)
  have hcalls := hholds.calls id e
  rw [if_pos ⟨rfl, rfl⟩] at hcalls
  have hbound : (f.step (.bind bus b target)).1 =
      ⟨f.held.addHandle tickets, (f.buses.subscribeAll id (b.wiring target)).1⟩ := by
    simp only [FlatClient.step, hflat, Answer.given, tickets]
  have hkept : (f.held.addHandle tickets).bus? bus = some id := hflat
  rw [hbound]
  simp only [FlatClient.step, hkept, Answer.given]
  rw [FlatBuses.on, FlatBuses.live_subscribeAll, List.filter_append, ← FlatBuses.on, hbefore,
    List.nil_append]
  exact congrArg Answer.invoked hcalls

/-- What a handler does on an event. -/
def HandlerDescriptor.call (h : HandlerDescriptor T A) (target : Shared T) (e : Event) :
    Invocation A :=
  ⟨⟨some target.id, h.invoker target.value⟩, e⟩

/-- A binding delivers an event to each handler of its type once, provided that none has
the type twice. -/
theorem Binding.calls_eq_once_iff (b : Binding A) (e : Event) :
    b.calls e =
        (b.binder.descriptors.filter fun h => e.eventType ∈ h.eventTypes).map
          (·.call b.target e) ↔
      ∀ h ∈ b.binder.descriptors, h.eventTypes.count e.eventType ≤ 1 := by
  rw [← flatMap_replicate_eq_filter_iff (f := (·.call b.target e))]
  simp only [List.count_pos_iff]
  rfl

namespace EventBinder

open Resolution

variable {catalog : Option EventCatalog} {m : TypeModel T A} {b : EventBinder T A}

theorem describes_of_ofModel (made : ofModel catalog m = .ok b) :
    List.Forall₂ (fun d h => ∃ a, d.annotation = some a ∧ describe catalog d a = .ok h)
      (m.inheritable.filter (·.isHandler)) b.descriptors := by
  unfold ofModel at made
  cases hs : m.resolve catalog with
  | error e =>
    rw [hs] at made
    cases made
  | ok descriptors =>
    rw [hs] at made
    cases made
    exact describeAll_ok_iff.mp hs

/-- The descriptors list their types once exactly if the handlers do. -/
theorem nodup_iff_listsOnce (made : ofModel catalog m = .ok b) :
    (∀ h ∈ b.descriptors, h.eventTypes.Nodup) ↔
      ∀ d ∈ m.inheritable, ∀ a, d.annotation = some a → ListsOnce catalog a := by
  have hall := describes_of_ofModel made
  constructor
  · intro hnodup d hd a ha
    have hhandler : d ∈ m.inheritable.filter (·.isHandler) :=
      List.mem_filter.mpr ⟨hd, by rw [MethodDecl.isHandler, ha]; rfl⟩
    obtain ⟨h, hh, a', ha', hdescribe⟩ := exists_mem_of_forall₂ hall.flip hhandler
    obtain rfl : a = a' := Option.some.inj (ha.symm.trans ha')
    exact ((describes_of_describe ha hdescribe).nodup_iff ha).mp (hnodup h hh)
  · intro honce h hh
    obtain ⟨d, hd, a, ha, hdescribe⟩ := exists_mem_of_forall₂ hall hh
    refine ((describes_of_describe ha hdescribe).nodup_iff ha).mpr (honce d ?_ a ha)
    exact (List.mem_filter.mp hd).1

/-- Resolved handlers have concrete types only, and of each there are events. -/
theorem nodup_iff_count_event (made : ofModel catalog m = .ok b) :
    (∀ h ∈ b.descriptors, h.eventTypes.Nodup) ↔
      ∀ e : Event, ∀ h ∈ b.descriptors, h.eventTypes.count e.eventType ≤ 1 := by
  constructor
  · intro hnodup e h hh
    exact List.nodup_iff_count_le_one.mp (hnodup h hh) _
  · intro hcount h hh
    refine List.nodup_iff_count_le_one.mpr fun t => ?_
    by_cases ht : t ∈ h.eventTypes
    · obtain ⟨d, -, a, -, hdescribe⟩ := exists_mem_of_forall₂ (describes_of_ofModel made) hh
      obtain ⟨c, rfl⟩ := (concrete_of_describe hdescribe).2 t ht
      exact hcount ⟨c, c.name, none, .null, ""⟩ h hh
    · rw [List.count_eq_zero_of_not_mem ht]
      exact Nat.zero_le 1

/-- A descriptor has no type twice exactly if no two entries of its handler's list stand
for one type. When a target is bound on a bus that has no subscriptions, an event is
delivered to each handler as many times as its descriptor has the event's type, whatever
the handlers do meanwhile. So every event runs each handler at most once exactly if all
handlers list their types once. -/
theorem invokes_once_iff_listsOnce (made : ofModel catalog m = .ok b) :
    List.Forall₂
        (fun d h => ∃ a, d.annotation = some a ∧ (h.eventTypes.Nodup ↔ ListsOnce catalog a))
        (m.inheritable.filter (·.isHandler)) b.descriptors ∧
      ∀ (c : Client A) (bus : Nat) (id : BusId) (target : Shared T)
        (invoke : Callback A → Event → Client A → Client A),
        c.Reached → c.held.bus? bus = some id → c.system.total id = 0 →
        let delivered (e : Event) : Answer A :=
          ((c.step invoke (.bind bus b target)).1.step invoke (.publish bus e)).2
        (∀ e, delivered e = .invoked (b.descriptors.flatMap fun h =>
          List.replicate (h.eventTypes.count e.eventType) (h.call target e))) ∧
        ((∀ e, delivered e = .invoked
            ((b.descriptors.filter fun h => e.eventType ∈ h.eventTypes).map (·.call target e))) ↔
          ∀ d ∈ m.inheritable, ∀ a, d.annotation = some a → ListsOnce catalog a) := by
  constructor
  · exact (describes_of_ofModel made).imp fun d h ⟨a, ha, hdescribe⟩ =>
      ⟨a, ha, (describes_of_describe ha hdescribe).nodup_iff ha⟩
  · intro c bus id target invoke hreached hbus hempty delivered
    have hdelivered : ∀ e, delivered e = .invoked (Binding.calls ⟨id, b, target, true⟩ e) :=
      hreached.publish_bind hbus hempty b target invoke
    refine ⟨hdelivered, ?_⟩
    rw [← nodup_iff_listsOnce made, nodup_iff_count_event made]
    refine forall_congr' fun e => ?_
    rw [hdelivered, Answer.invoked.injEq]
    exact Binding.calls_eq_once_iff ⟨id, b, target, true⟩ e

/-- A handler that lists one type twice. -/
theorem invokes_twice_of_repeated :
    let opened : ConcreteType := ⟨1, "Opened"⟩
    let e : Event := ⟨opened, "opened", none, .null, ""⟩
    let a : Annotation := ⟨[.type (.concrete opened), .type (.concrete opened)]⟩
    let d : MethodDecl Nat Nat :=
      ((MethodDecl.new "on_opened").annotated a).withInvoker fun n _ => some n
    let m : TypeModel Nat Nat := (TypeModel.new "Panel").method d
    let h : HandlerDescriptor Nat Nat :=
      ⟨⟨"on_opened", []⟩, "Panel", [.concrete opened, .concrete opened], fun n _ => some n⟩
    let c : Client Nat := (Client.start .empty).run Client.idle [.openBus .default]
    ofModel none m = .ok ⟨"Panel", [h]⟩ ∧ c.Reached ∧ ¬ListsOnce none a ∧
      ((c.step Client.idle (.bind 0 ⟨"Panel", [h]⟩ ⟨0, 7⟩)).1.step Client.idle (.publish 0 e)).2 =
        .invoked [h.call ⟨0, 7⟩ e, h.call ⟨0, 7⟩ e] := by
  intro opened e a d m h c
  have made : ofModel none m = .ok ⟨"Panel", [h]⟩ := rfl
  have hreached : c.Reached := ⟨.empty, [.openBus .default], .refl _⟩
  obtain ⟨-, hdelivers⟩ := invokes_once_iff_listsOnce made
  obtain ⟨hdelivered, -⟩ := hdelivers c 0 0 ⟨0, 7⟩ Client.idle hreached rfl rfl
  refine ⟨made, hreached, fun honce => ?_, ?_⟩
  · have hapart := List.rel_of_pairwise_cons honce (List.mem_singleton_self _)
    exact hapart (.concrete opened) (.type _) (.type _)
  · exact hdelivered e

/-- A handler that lists one type in three spellings. -/
theorem invokes_three_times_for_three_spellings :
    let first : EventType := .concrete ⟨1, "alpha::First"⟩
    let e : Event := ⟨⟨1, "alpha::First"⟩, "first", none, .null, ""⟩
    let a : Annotation := ⟨[.type first, .named "First", .named "alpha::First"]⟩
    let m : TypeModel Nat Nat := (TypeModel.new "Panel").method
      (((MethodDecl.new "on_first").annotated a).withInvoker fun n _ => some n)
    let h : HandlerDescriptor Nat Nat :=
      ⟨⟨"on_first", []⟩, "Panel", [first, first, first], fun n _ => some n⟩
    let c : Client Nat := (Client.start .empty).run Client.idle
      [.openBus .default, .bind 0 (⟨"Panel", [h]⟩ : EventBinder Nat Nat) ⟨0, 7⟩]
    ofModel (some (.ofTypes [first])) m = .ok ⟨"Panel", [h]⟩ ∧ ¬h.eventTypes.Nodup ∧
      (c.step Client.idle (.publish 0 e)).2 =
        .invoked [h.call ⟨0, 7⟩ e, h.call ⟨0, 7⟩ e, h.call ⟨0, 7⟩ e] := by
  intro first e a m h c
  have hlisted : listTypes (some (.ofTypes [first])) none a.events =
      .ok [first, first, first] := by decide
  have hinheritable : m.inheritable =
      [⟨"on_first", "Panel", [], some a, some fun n _ => some n⟩] := rfl
  have hresolve : m.resolve (some (.ofTypes [first])) = .ok [h] := by
    have hexplicit : a.isExplicit = true := rfl
    simp [TypeModel.resolve, hinheritable, describeAll, describe, handledTypes_of_listed hexplicit,
      hlisted, MethodDecl.signature, bind, Except.bind, h]
  have made : ofModel (some (.ofTypes [first])) m = .ok ⟨"Panel", [h]⟩ := by
    rw [ofModel, hresolve]
    rfl
  exact ⟨made, by decide, rfl⟩

end EventBinder

end EventWiring
