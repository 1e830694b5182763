import EventWiring.Proofs.Bus.Alike
import EventWiring.Proofs.Bus.Bindings

/-! A binding that is undone leaves no trace. A program runs once as it is and once
with a binding more that was made before; the second run gives later subscriptions
other tickets, further by those of the binding, and differs in nothing else. When
the binding is undone the tables are the same. -/
namespace EventWiring

open Answer (given)

/-! ### Open buses -/

theorem Holdings.mem_dropBus {K : Type} {h : Holdings K} {bus : Nat} {id id' : BusId}
    (hid : h.bus? bus = some id) (hid' : some id' ∈ h.buses) (hne : id' ≠ id) :
    some id' ∈ (h.dropBus bus).buses := by
  obtain ⟨i, hi⟩ := List.mem_iff_getElem?.mp hid'
  have hother : bus ≠ i := by
    rintro rfl
    rw [Holdings.bus?, hi] at hid
    exact hne (Option.some.inj hid)
  refine List.mem_of_getElem? (i := i) ?_
  show (h.buses.set bus none)[i]? = some (some id')
  rw [List.getElem?_set_ne hother]
  exact hi

variable {A : Type}

namespace Client

/-- Every bus that is open has a name. -/
def Named (c : Client A) : Prop := ∀ id, c.system.isOpen id = true → some id ∈ c.held.buses

namespace Named

variable {c : Client A}

theorem start (registry : KeyRegistry) : (start registry : Client A).Named := by
  intro id hid
  cases hid

/-- The same buses are open, under the same names. -/
theorem congr (h : c.Named) {held : Holdings Token} {s : System (Callback A)}
    (hheld : held.buses = c.held.buses) (hopen : ∀ id, s.isOpen id = c.system.isOpen id) :
    (⟨held, s⟩ : Client A).Named := by
  intro id hid
  rw [hheld]
  exact h id ((hopen id).symm.trans hid)

theorem alike {d : Client A} (h : c.Named) (hcd : d.Alike c) : d.Named :=
  h.congr (congrArg _ hcd.held) fun id => System.isOpen_congr hcd.system.buses id

theorem given (h : c.Named) {N : Type} (name : Option N) {x : N → Client A × Answer A}
    (hx : ∀ n, name = some n → (x n).1.Named) : (given c name x).1.Named :=
  Answer.given_ind (P := fun p : Client A × Answer A => p.1.Named) h hx

theorem openBus (h : c.Named) (config : BusConfig) : (c.step idle (.openBus config)).1.Named := by
  intro id hid
  replace hid : (c.system.openBus config).1.isOpen id = true := hid
  rw [System.isOpen, System.bus?_openBus] at hid
  split at hid
  · rename_i he
    exact List.mem_append_right _ (List.mem_singleton.mpr (congrArg some he))
  · exact List.mem_append_left _ (h id hid)

theorem dropBus (h : c.Named) (bus : Nat) : (c.step idle (.dropBus bus)).1.Named := by
  refine h.given _ fun id hbus => ?_
  intro id' hid
  dsimp only at hid ⊢
  by_cases he : id' = id
  · subst he
    -- if no name is left, the bus was dropped
    split at hid
    · rename_i hnames
      exact Holdings.names_iff.mp hnames
    · rw [System.isOpen, System.bus?_dropBus, if_pos rfl] at hid
      cases hid
  · refine Holdings.mem_dropBus hbus (h id' ?_) he
    split at hid
    · exact hid
    · rw [System.isOpen, System.bus?_dropBus, if_neg he] at hid
      exact hid

theorem step (h : c.Named) (r : Request A) : (c.step idle r).1.Named := by
  cases r with
  | openBus config => exact h.openBus config
  | cloneBus bus =>
    exact h.given _ fun id _ id' hid => List.mem_append_left _ (h id' hid)
  | dropBus bus => exact h.dropBus bus
  | subscribe bus type body =>
    refine h.given _ fun id _ => h.congr rfl fun id' => ?_
    exact (System.isOpen_subscribe ..).trans (System.isOpen_congr (System.buses_keyFor ..) id')
  | subscribeKey bus key callback =>
    exact h.given _ fun id _ => h.congr rfl fun _ => System.isOpen_subscribe ..
  | bind bus binder target =>
    exact h.given _ fun id _ => h.congr rfl fun _ => System.isOpen_subscribeAll ..
  | remove token => exact h.given _ fun t _ => h.congr rfl (c.system.isOpen_remove t)
  | openHandle => exact h
  | push token handle => exact h.given _ fun t _ => h.given _ fun ts _ => h
  | removeHeld handle place =>
    exact h.given _ fun t _ => h.given _ fun ts _ => h.congr rfl (c.system.isOpen_remove t)
  | unbind handle => exact h.given _ fun ts _ => h.congr rfl (c.system.isOpen_unbind ⟨ts⟩)
  | unsubscribeAll bus type =>
    exact h.given _ fun id _ => h.congr rfl (c.system.isOpen_unsubscribeAll id _)
  | clear bus => exact h.given _ fun id _ => h.congr rfl (c.system.isOpen_clear id)
  | count bus type =>
    exact h.given _ fun id _ => h.congr rfl (System.isOpen_congr (System.buses_keyFor ..))
  | total bus => exact h.given _ fun id _ => h
  | publish bus e => exact h.given _ fun id _ => h.alike (Alike.publish_idle c id e)

theorem run (h : c.Named) (requests : List (Request A)) : (c.run idle requests).Named := by
  induction requests generalizing c with
  | nil => exact h
  | cons r rest ih => exact ih (h.step r)

end Named

theorem Reached.named {c : Client A} (h : c.Reached) : c.Named := by
  obtain ⟨registry, requests, h⟩ := h
  exact ((Named.start registry).run requests).alike h

end Client

/-- The buses that are open are those that have a name. -/
theorem Mirrors.isOpen_iff {c : Client A} {f : FlatClient A} {number : Nat → Nat}
    (h : Mirrors c f number) (hnamed : c.Named) (id : BusId) :
    c.system.isOpen id = true ↔ some id ∈ f.held.buses := by
  rw [← h.held.buses]
  exact ⟨hnamed id, h.opened id⟩

/-! ### Tickets -/

namespace FlatBuses

/-- The ticket that a subscription has if `count` tickets more were given out from
`first` on. -/
def shift (first count n : Nat) : Nat := if n < first then n else n + count

theorem shift_of_lt {first n : Nat} (h : n < first) (count : Nat) : shift first count n = n :=
  if_pos h

theorem shift_of_le {first n : Nat} (h : first ≤ n) (count : Nat) :
    shift first count n = n + count :=
  if_neg (Nat.not_lt.mpr h)

theorem shift_inj {first count n m : Nat} : shift first count n = shift first count m ↔ n = m := by
  unfold shift
  constructor
  · intro h
    split at h <;> split at h <;> omega
  · rintro rfl
    rfl

theorem shift_not_mem (first count n : Nat) :
    shift first count n ∉ List.range' first count := by
  rw [List.mem_range'_1]
  unfold shift
  split <;> omega

variable {C : Type}

/-- A listing under the ticket that it has then. -/
def later (first count : Nat) (l : Listing C) : Listing C :=
  { l with ticket := shift first count l.ticket }

theorem tickets_subscribeAll (f : FlatBuses C) (bus : BusId) (wiring : List (EventType × C)) :
    (f.subscribeAll bus wiring).1.tickets = f.tickets + wiring.length := by
  induction wiring generalizing f with
  | nil => rfl
  | cons w rest ih =>
    refine (ih _).trans ?_
    show f.tickets + 1 + rest.length = f.tickets + (rest.length + 1)
    omega

/-- A wiring takes the next tickets in a row. -/
theorem row_subscribeAll (f : FlatBuses C) (bus : BusId) (wiring : List (EventType × C)) :
    (f.subscribeAll bus wiring).2 = List.range' f.tickets wiring.length := by
  induction wiring generalizing f with
  | nil => rfl
  | cons w rest ih =>
    rw [List.length_cons, List.range'_succ]
    exact congrArg (f.tickets :: ·) (ih _)

/-- The second buses have had a binding more, which took `count` tickets from
`first` on. What is live without it is live in both. -/
structure Apart (first count : Nat) (f g : FlatBuses C) : Prop where
  opened : f.opened = g.opened
  tickets : g.tickets = f.tickets + count
  reached : first ≤ f.tickets
  live : g.live.filter (·.ticket ∉ List.range' first count) = f.live.map (later first count)

namespace Apart

variable {first count : Nat} {f g : FlatBuses C}

/-- The binding was just made. -/
theorem subscribeAll (issued : ∀ l ∈ f.live, l.ticket < f.tickets) (bus : BusId)
    (wiring : List (EventType × C)) :
    Apart f.tickets wiring.length f (f.subscribeAll bus wiring).1 := by
  have hrow := f.row_subscribeAll bus wiring
  have hlength : (List.range' f.tickets wiring.length).length = wiring.length :=
    List.length_range'
  constructor
  · exact (f.opened_subscribeAll bus wiring).symm
  · exact f.tickets_subscribeAll bus wiring
  · exact Nat.le_refl _
  · have hold : f.live.filter (·.ticket ∉ List.range' f.tickets wiring.length) = f.live := by
      refine List.filter_eq_self.mpr fun l hl => decide_eq_true ?_
      have := issued l hl
      rw [List.mem_range'_1]
      omega
    have hown : (listed bus (List.range' f.tickets wiring.length) wiring).filter
        (·.ticket ∉ List.range' f.tickets wiring.length) = [] := by
      refine List.filter_eq_nil_iff.mpr fun l hl => ?_
      have hmem : l.ticket ∈ (listed bus (List.range' f.tickets wiring.length) wiring).map
          (·.ticket) := List.mem_map_of_mem hl
      rw [map_ticket_listed bus hlength] at hmem
      simpa using hmem
    have hsame : f.live.map (later f.tickets wiring.length) = f.live := by
      refine (List.map_congr_left fun l hl => ?_).trans (List.map_id _)
      rw [later, shift_of_lt (issued l hl)]
      rfl
    rw [live_subscribeAll, hrow, List.filter_append, hold, hown, hsame, List.append_nil]

/-- A new listing has the last ticket on both sides. -/
theorem subscribe (h : Apart first count f g) (bus : BusId) (type : EventType) (callback : C) :
    Apart first count (f.subscribe bus type callback).1 (g.subscribe bus type callback).1 ∧
      (g.subscribe bus type callback).2 = shift first count (f.subscribe bus type callback).2 := by
  have hticket : g.tickets = shift first count f.tickets :=
    h.tickets.trans (shift_of_le h.reached count).symm
  refine ⟨⟨h.opened, ?_, Nat.le_succ_of_le h.reached, ?_⟩, hticket⟩
  · show g.tickets + 1 = f.tickets + 1 + count
    rw [h.tickets]
    omega
  · show (g.live ++ [_]).filter _ = (f.live ++ [_]).map _
    have hnew : [(⟨g.tickets, bus, type, callback⟩ : Listing C)].filter
        (·.ticket ∉ List.range' first count) =
          [⟨shift first count f.tickets, bus, type, callback⟩] := by
      rw [hticket]
      exact List.filter_cons_of_pos (decide_eq_true (shift_not_mem first count f.tickets))
    rw [List.filter_append, h.live, hnew, List.map_append]
    rfl

/-- Both sides lose the same listings. -/
theorem prune (h : Apart first count f g) {stays stays' : Listing C → Bool}
    (hstays : ∀ l, stays' (later first count l) = stays l) :
    Apart first count { f with live := f.live.filter stays }
      { g with live := g.live.filter stays' } := by
  refine ⟨h.opened, h.tickets, h.reached, ?_⟩
  show (g.live.filter stays').filter _ = (f.live.filter stays).map _
  -- it does not matter which of the two filters comes first
  rw [List.filter_comm, h.live, List.filter_map]
  exact congrArg _ (List.filter_congr fun l _ => hstays l)

theorem remove (h : Apart first count f g) (n : Nat) :
    Apart first count (f.remove n) (g.remove (shift first count n)) :=
  h.prune fun _ => decide_eq_decide.mpr (not_congr shift_inj)

theorem removeAll (h : Apart first count f g) {ns ms : List Nat}
    (hms : List.Forall₂ (fun n m => m = shift first count n) ns ms) :
    Apart first count (f.removeAll ns) (g.removeAll ms) := by
  induction hms generalizing f g with
  | nil => exact h
  | cons hm _ ih =>
    subst hm
    exact ih (h.remove _)

theorem subscribeAll_both (h : Apart first count f g) (bus : BusId)
    (wiring : List (EventType × C)) :
    Apart first count (f.subscribeAll bus wiring).1 (g.subscribeAll bus wiring).1 ∧
      List.Forall₂ (fun n m => m = shift first count n) (f.subscribeAll bus wiring).2
        (g.subscribeAll bus wiring).2 := by
  induction wiring generalizing f g with
  | nil => exact ⟨h, .nil⟩
  | cons w rest ih =>
    obtain ⟨hnext, hticket⟩ := h.subscribe bus w.1 w.2
    obtain ⟨hlast, htickets⟩ := ih hnext
    exact ⟨hlast, .cons hticket htickets⟩

/-- Without its tickets nothing is left of the binding. -/
theorem on_removeAll (h : Apart first count f g) (id : BusId) (t : EventType) :
    ((g.removeAll (List.range' first count)).on id t).map (·.callback) =
      (f.on id t).map (·.callback) := by
  rw [on, live_removeAll, h.live, List.filter_map, List.map_map]
  rfl

end Apart

end FlatBuses

/-! ### Two runs -/

namespace FlatClient

/-- What is held is the same up to tickets. -/
structure Apart (first count : Nat) (f g : FlatClient A) : Prop where
  held : f.held.Match (fun n m => m = FlatBuses.shift first count n) g.held
  buses : f.buses.Apart first count g.buses

namespace Apart

variable {first count : Nat} {f g : FlatClient A}

theorem given_same {N N' : Type} {R : N → N' → Prop} (h : Apart first count f g)
    {name : Option N} {name' : Option N'} (hnames : Option.Rel R name name')
    {x : N → FlatClient A × Answer A} {y : N' → FlatClient A × Answer A}
    (hxy : ∀ n n', R n n' → Apart first count (x n).1 (y n').1) :
    Apart first count (given f name x).1 (given g name' y).1 :=
  given_rel (P := fun p q => Apart first count p.1 q.1) hnames h fun n n' _ _ => hxy n n'

theorem given_bus (h : Apart first count f g) (bus : Nat) {x y : BusId → FlatClient A × Answer A}
    (hxy : ∀ id, Apart first count (x id).1 (y id).1) :
    Apart first count (given f (f.held.bus? bus) x).1 (given g (g.held.bus? bus) y).1 :=
  h.given_same (h.held.bus?_rel bus) fun id _ he => he ▸ hxy id

theorem step (h : Apart first count f g) (r : Request A) :
    Apart first count (f.step r).1 (g.step r).1 := by
  cases r with
  | openBus config =>
    have hbuses := h.buses
    exact ⟨h.held.addBus hbuses.opened,
      ⟨congrArg (· + 1) hbuses.opened, hbuses.tickets, hbuses.reached, hbuses.live⟩⟩
  | cloneBus bus => exact h.given_bus bus fun id => ⟨h.held.addBus rfl, h.buses⟩
  | dropBus bus =>
    refine h.given_bus bus fun id => ⟨h.held.dropBus bus, ?_⟩
    dsimp only
    rw [← (h.held.dropBus bus).names]
    split
    · exact h.buses
    · exact h.buses.prune fun _ => rfl
  | subscribe bus type body =>
    refine h.given_bus bus fun id => ?_
    obtain ⟨hbuses, hticket⟩ :=
      h.buses.subscribe id (.concrete type) (.typed (.concrete type) body)
    exact ⟨h.held.addToken hticket, hbuses⟩
  | subscribeKey bus key callback =>
    refine h.given_bus bus fun id => ?_
    obtain ⟨hbuses, hticket⟩ := h.buses.subscribe id key.type callback
    exact ⟨h.held.addToken hticket, hbuses⟩
  | bind bus binder target =>
    refine h.given_bus bus fun id => ?_
    obtain ⟨hbuses, htickets⟩ := h.buses.subscribeAll_both id (binder.wiring target)
    exact ⟨h.held.addHandle htickets, hbuses⟩
  | remove token =>
    refine h.given_same (h.held.token? token) fun n m hm => ⟨h.held, ?_⟩
    subst hm
    exact h.buses.remove n
  | openHandle => exact ⟨h.held.addHandle .nil, h.buses⟩
  | push token handle =>
    refine h.given_same (h.held.token? token) fun n m hm => ?_
    refine h.given_same (h.held.handle? handle) fun ns ms hms => ?_
    exact ⟨h.held.moveToken token handle hm hms, h.buses⟩
  | removeHeld handle place =>
    refine h.given_same (h.held.heldToken? handle place) fun n m hm => ⟨h.held, ?_⟩
    subst hm
    exact h.buses.remove n
  | unbind handle =>
    refine h.given_same (h.held.handle? handle) fun ns ms hms => ?_
    exact ⟨h.held.setHandle handle .nil, h.buses.removeAll hms⟩
  | unsubscribeAll bus type =>
    exact h.given_bus bus fun id => ⟨h.held, h.buses.prune fun _ => rfl⟩
  | clear bus => exact h.given_bus bus fun id => ⟨h.held, h.buses.prune fun _ => rfl⟩
  | count bus type => exact h.given_bus bus fun _ => h
  | total bus => exact h.given_bus bus fun _ => h
  | publish bus e => exact h.given_bus bus fun _ => h

theorem run (h : Apart first count f g) (requests : List (Request A)) :
    Apart first count (f.run requests) (g.run requests) := by
  induction requests generalizing f g with
  | nil => exact h
  | cons r rest ih => exact ih (h.step r)

variable {c d : Client A} {number number' : Nat → Nat}

/-- A program has come to the point where the binding is made. -/
theorem start (h : Mirrors c f number) (id : BusId) (wiring : List (EventType × Callback A)) :
    Apart f.buses.tickets wiring.length f ⟨f.held, (f.buses.subscribeAll id wiring).1⟩ := by
  refine ⟨h.held.right fun t n ht => ?_, .subscribeAll h.agree.ticketed id wiring⟩
  exact (FlatBuses.shift_of_lt ht.made _).symm

/-- The same names are held, so the same buses are open. -/
theorem isOpen (h : Apart first count f g) (hc : Mirrors c f number) (hd : Mirrors d g number')
    (hcn : c.Named) (hdn : d.Named) (id : BusId) : d.system.isOpen id = c.system.isOpen id := by
  rw [Bool.eq_iff_iff, hc.isOpen_iff hcn, hd.isOpen_iff hdn, h.held.buses]

end Apart

end FlatClient

/-- A target is bound, its handle is kept aside while the program makes any other
requests, and then it is unbound. Every bus ends with the table that it has if the
same requests are made without the binding. The handle is left empty, and to unbind
it again changes nothing, whatever was bound in the meantime. -/
theorem unbind_leaves_no_trace {T : Type} {c : Client A} (reached : c.Reached) {id : BusId}
    (opened : c.system.isOpen id = true) (binder : EventBinder T A) (target : Shared T)
    (requests : List (Request A)) :
    let bound := c.system.bind id binder target
    let d := (⟨c.held, bound.1⟩ : Client A).run Client.idle requests
    let undone := d.system.unbind bound.2
    (∀ id', undone.1.tableOf id' = (c.run Client.idle requests).system.tableOf id') ∧
      undone.2.isEmpty = true ∧ undone.2.state = "Unbound" ∧
      ∀ later : System (Callback A), later.unbind undone.2 = (later, undone.2) := by
  intro bound d undone
  obtain ⟨f, number, hmirrors⟩ := reached.mirrors
  -- both runs are followed in the plain account, where they stay apart by the binding
  let wiring := binder.wiring target
  let g : FlatClient A := ⟨f.held, (f.buses.subscribeAll id wiring).1⟩
  have hopen : ∀ id', bound.1.isOpen id' = c.system.isOpen id' := fun _ =>
    System.isOpen_subscribeAll ..
  obtain ⟨number₁, hagree₁, hkeeps₁, hstands⟩ :=
    Twin.bind_spec hmirrors.agree opened binder target
  have hbound : Mirrors ⟨c.held, bound.1⟩ g number₁ := hmirrors.advance hagree₁ hkeeps₁ hopen
  obtain ⟨number₂, hplain, -⟩ := hmirrors.run requests
  obtain ⟨number₃, hafter, hkeeps⟩ := hbound.run requests
  have hapart := (FlatClient.Apart.start hmirrors id wiring).run requests
  -- the tokens of the handle still stand for the tickets of the binding
  rw [FlatBuses.row_subscribeAll] at hstands
  obtain ⟨hagree, -, hempty⟩ := Twin.unbind_spec hafter.agree (hstands.imp hkeeps)
  have hhandle : undone.2 = .empty := congrArg BindingHandle.mk hempty
  refine ⟨fun id' => ?_, by rw [hhandle]; rfl, by rw [hhandle]; rfl, ?_⟩
  · refine Twin.Agree.tableOf hagree hplain.agree ?_ fun t => hapart.buses.on_removeAll id' t
    have hd : d.Named := (reached.named.congr rfl hopen).run requests
    exact (System.isOpen_unbind ..).trans
      (hapart.isOpen hplain hafter (reached.named.run requests) hd id')
  · intro later
    rw [hhandle]
    rfl

/-- A panel is bound between two functions, of which the first is removed before the
panel is unbound. The table is then that of the second alone, and the old handle
does nothing to a new binding of the panel. -/
theorem unbind_panel_leaves_no_trace :
    let opened : ConcreteType := ⟨1, "Opened"⟩
    let binder : EventBinder Nat Nat :=
      ⟨"Panel", [⟨⟨"on_opened", []⟩, "Panel", [.concrete opened], fun n _ => some n⟩]⟩
    let c := (Client.start .empty).run Client.idle [.openBus .default, .subscribe 0 opened fun _ => 1]
    let requests : List (Request Nat) := [.subscribe 0 opened fun _ => 2, .remove 0]
    let bound := c.system.bind 0 binder ⟨0, 7⟩
    let d := (⟨c.held, bound.1⟩ : Client Nat).run Client.idle requests
    let undone := d.system.unbind bound.2
    let again := undone.1.bind 0 binder ⟨0, 7⟩
    d.system.total 0 = 2 ∧ undone.1.total 0 = 1 ∧
      (∀ id, undone.1.tableOf id = (c.run Client.idle requests).system.tableOf id) ∧
      undone.2.state = "Unbound" ∧ again.1.unbind undone.2 = (again.1, undone.2) := by
  intro opened binder c requests bound d undone again
  have reached : c.Reached := ⟨.empty, _, .refl _⟩
  have hopen : c.system.isOpen 0 = true := rfl
  obtain ⟨htables, -, hstate, hlater⟩ :=
    unbind_leaves_no_trace reached hopen binder ⟨0, 7⟩ requests
  refine ⟨?_, ?_, htables, hstate, hlater again.1⟩
  · decide
  · decide

end EventWiring
