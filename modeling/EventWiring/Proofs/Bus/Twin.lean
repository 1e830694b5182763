import EventWiring.Proofs.Bus.Effects
import EventWiring.Proofs.Bus.FlatBus
import EventWiring.Proofs.Bus.Table
import Mathlib.Data.List.Forall2
import Mathlib.Data.List.Nodup

/-! Keyed buses and their plain account side by side. They agree when the table
of every open bus shows what the account has live there; the numbers that buses
give are tied to tickets by a function that grows with them. Every operation
keeps the agreement, and what each token stands for. -/
namespace EventWiring

variable {C : Type}

/-- Keyed buses, their plain account, and for each ticket the number that its
subscription has on its bus. -/
structure Twin (C : Type) where
  keyed : System C
  flat : FlatBuses C
  number : Nat → Nat

namespace Twin

/-- What a table holds for a listing. -/
def filed (p : Twin C) (l : Listing C) : Subscription C := ⟨p.number l.ticket, l.callback⟩

/-- What the table of a bus is to show for each type. -/
def lists (p : Twin C) (id : BusId) (t : EventType) : List (Subscription C) :=
  (p.flat.on id t).map p.filed

structure Agree (p : Twin C) : Prop where
  opened : p.keyed.buses.length = p.flat.opened
  ticketed : ∀ l ∈ p.flat.live, l.ticket < p.flat.tickets
  typed : ∀ l ∈ p.flat.live, ∃ k, p.keyed.registry.get? l.type = some k
  numbered : ∀ l ∈ p.flat.live, ∃ b, p.keyed.bus? l.bus = some b ∧ p.number l.ticket < b.nextId
  tables : ∀ id b, p.keyed.bus? id = some b → b.table.Shows p.keyed.registry (p.lists id)

/-- A token stands for a ticket: among what is live, bus and number of the token
single out the ticket's listing, and nothing once the token was used. -/
structure Stands (p : Twin C) (t : Token) (n : Nat) : Prop where
  made : n < p.flat.tickets
  opened : t.bus < p.flat.opened
  key : p.keyed.registry.get? t.key.type = some t.key
  below : ∀ b, p.keyed.bus? t.bus = some b → t.id < b.nextId
  listing : ∀ l ∈ p.flat.live, l.ticket = n ↔ l.bus = t.bus ∧ p.number l.ticket = t.id
  type : ∀ l ∈ p.flat.live, l.ticket = n → l.type = t.key.type
  used : t.removed = true → ∀ l ∈ p.flat.live, l.ticket ≠ n

/-- Every token stands for what it stood for. -/
def Keeps (p q : Twin C) : Prop := ∀ t n, p.Stands t n → q.Stands t n

theorem Keeps.refl (p : Twin C) : p.Keeps p := fun _ _ h => h

theorem Keeps.trans {p q r : Twin C} (h : p.Keeps q) (h' : q.Keeps r) : p.Keeps r :=
  fun t n ht => h' t n (h t n ht)

variable {p : Twin C} {id : BusId} {b : Bus C}

/-- A type without a key has nothing live. -/
theorem Agree.lists_eq_nil (h : p.Agree) {t : EventType} (ht : p.keyed.registry.get? t = none)
    (id : BusId) : p.lists id t = [] := by
  have hon : p.flat.on id t = [] := by
    refine List.filter_eq_nil_iff.mpr fun l hl hq => ?_
    obtain ⟨k, hk⟩ := h.typed l hl
    rw [(of_decide_eq_true hq).2, ht] at hk
    cases hk
  rw [lists, hon, List.map_nil]

/-! ### Operations that touch no table -/

/-- Only the registry and the places of the buses count. -/
theorem Agree.congr (h : p.Agree) {s : System C} (hr : s.registry = p.keyed.registry)
    (hb : s.buses = p.keyed.buses) : Agree { p with keyed := s } := by
  have hbus := System.bus?_congr hb
  constructor
  · exact (congrArg _ hb).trans h.opened
  · exact h.ticketed
  · exact fun l hl => hr ▸ h.typed l hl
  · intro l hl
    obtain ⟨b, hs, hn⟩ := h.numbered l hl
    exact ⟨b, (hbus _).trans hs, hn⟩
  · exact fun id b hs => hr ▸ h.tables id b ((hbus id).symm.trans hs)

theorem keeps_congr {s : System C} (hr : s.registry = p.keyed.registry)
    (hb : s.buses = p.keyed.buses) : p.Keeps { p with keyed := s } := by
  intro t n ht
  exact ⟨ht.made, ht.opened, hr ▸ ht.key,
    fun b hs => ht.below b ((System.bus?_congr hb _).symm.trans hs), ht.listing, ht.type, ht.used⟩

theorem Agree.keyFor (h : p.Agree) (t : EventType) :
    Agree { p with keyed := (p.keyed.keyFor t).1 } := by
  have hbus := System.bus?_keyFor p.keyed t
  constructor
  · exact (congrArg _ (System.buses_keyFor _ _)).trans h.opened
  · exact h.ticketed
  · intro l hl
    obtain ⟨k, hk⟩ := h.typed l hl
    rw [System.registry_keyFor]
    exact ⟨k, KeyRegistry.get?_keyFor_of_some hk t⟩
  · intro l hl
    obtain ⟨b, hs, hn⟩ := h.numbered l hl
    exact ⟨b, (hbus _).trans hs, hn⟩
  · intro id b hs
    rw [System.registry_keyFor]
    exact (h.tables id b ((hbus id).symm.trans hs)).keyFor t fun ht => h.lists_eq_nil ht id

theorem keeps_keyFor (t : EventType) : p.Keeps { p with keyed := (p.keyed.keyFor t).1 } := by
  intro u n hu
  refine ⟨hu.made, hu.opened, ?_, ?_, hu.listing, hu.type, hu.used⟩
  · rw [System.registry_keyFor]
    exact KeyRegistry.get?_keyFor_of_some hu.key t
  · exact fun b hs => hu.below b ((System.bus?_keyFor p.keyed t _).symm.trans hs)

/-! ### Opening a bus -/

def openBus (p : Twin C) (config : BusConfig) : Twin C :=
  { p with keyed := (p.keyed.openBus config).1, flat := p.flat.openBus.1 }

theorem Agree.openBus (h : p.Agree) (config : BusConfig) : (p.openBus config).Agree := by
  have hbus := System.bus?_openBus p.keyed config
  -- the place of the new bus is past every bus that has something live
  have hlive : ∀ l ∈ p.flat.live, l.bus ≠ p.keyed.buses.length := by
    intro l hl he
    obtain ⟨b, hs, -⟩ := h.numbered l hl
    exact Nat.lt_irrefl _ (he ▸ System.bus?_lt hs)
  constructor
  · simp [Twin.openBus, System.openBus, FlatBuses.openBus, h.opened]
  · exact h.ticketed
  · exact h.typed
  · intro l hl
    obtain ⟨b, hs, hn⟩ := h.numbered l hl
    exact ⟨b, (hbus _).trans ((if_neg (hlive l hl)).trans hs), hn⟩
  · intro id b hs
    replace hs := (hbus id).symm.trans hs
    split at hs
    · rename_i he
      cases hs
      refine SubscriberTable.Shows.empty.congr fun t => ?_
      have hon : p.flat.on id t = [] :=
        List.filter_eq_nil_iff.mpr fun l hl hq => hlive l hl ((of_decide_eq_true hq).1.trans he)
      exact (congrArg (List.map _) hon).symm
    · exact h.tables id b hs

theorem keeps_openBus (h : p.Agree) (config : BusConfig) : p.Keeps (p.openBus config) := by
  intro t n ht
  refine ⟨ht.made, Nat.lt_succ_of_lt ht.opened, ht.key, ?_, ht.listing, ht.type, ht.used⟩
  intro b hs
  have hne : t.bus ≠ p.keyed.buses.length := h.opened ▸ Nat.ne_of_lt ht.opened
  exact ht.below b ((if_neg hne).symm.trans ((System.bus?_openBus ..).symm.trans hs))

/-! ### Subscribing -/

def subscribe (p : Twin C) (id : BusId) (key : EventKey) (callback : C) : Twin C :=
  { keyed := (p.keyed.subscribe id key callback).1
    flat := (p.flat.subscribe id key.type callback).1
    number := fun n =>
      if n = p.flat.tickets then (p.keyed.subscribe id key callback).2.id else p.number n }

theorem number_subscribe_old (p : Twin C) (id : BusId) (key : EventKey) (callback : C) {n : Nat}
    (hn : n < p.flat.tickets) : (p.subscribe id key callback).number n = p.number n :=
  if_neg (Nat.ne_of_lt hn)

theorem number_subscribe_new (hb : p.keyed.bus? id = some b) (key : EventKey) (callback : C) :
    (p.subscribe id key callback).number p.flat.tickets = b.nextId := by
  simp [subscribe, System.token_subscribe hb]

theorem mem_live_subscribe {key : EventKey} {callback : C} {l : Listing C} :
    l ∈ (p.subscribe id key callback).flat.live ↔
      l ∈ p.flat.live ∨ l = ⟨p.flat.tickets, id, key.type, callback⟩ := by
  simp [subscribe, FlatBuses.subscribe]

theorem lists_subscribe (h : p.Agree) (hb : p.keyed.bus? id = some b) (key : EventKey)
    (callback : C) (id' : BusId) (t : EventType) :
    (p.subscribe id key callback).lists id' t =
      if id' = id ∧ t = key.type then p.lists id' t ++ [⟨b.nextId, callback⟩]
      else p.lists id' t := by
  have hon : (p.subscribe id key callback).flat.on id' t = p.flat.on id' t ++
      if id = id' ∧ key.type = t then [⟨p.flat.tickets, id, key.type, callback⟩] else [] := by
    simp only [subscribe, FlatBuses.subscribe, FlatBuses.on, List.filter_append]
    congr 1
    by_cases h : id = id' ∧ key.type = t <;> simp [h]
  have hold : (p.flat.on id' t).map (p.subscribe id key callback).filed = p.lists id' t := by
    refine List.map_congr_left fun l hl => ?_
    have hl := h.ticketed l (List.mem_filter.mp hl).1
    rw [filed, filed, number_subscribe_old _ _ _ _ hl]
  rw [lists, hon, List.map_append, hold]
  by_cases he : id' = id ∧ t = key.type
  · rw [if_pos he, if_pos ⟨he.1.symm, he.2.symm⟩, List.map_singleton, filed,
      number_subscribe_new hb]
  · rw [if_neg he, if_neg (fun hc => he ⟨hc.1.symm, hc.2.symm⟩), List.map_nil, List.append_nil]

theorem Agree.subscribe (h : p.Agree) (hb : p.keyed.bus? id = some b) (key : EventKey)
    (callback : C) : (p.subscribe id key callback).Agree := by
  have hkey := KeyRegistry.get?_keyFor_self p.keyed.registry key.type
  have hreg : (p.subscribe id key callback).keyed.registry = _ :=
    System.registry_subscribe p.keyed id key callback
  have hbus := System.bus?_subscribe p.keyed id key callback
  constructor
  · exact (System.length_subscribe ..).trans h.opened
  · intro l hl
    rcases mem_live_subscribe.mp hl with hl | rfl
    · exact Nat.lt_succ_of_lt (h.ticketed l hl)
    · exact Nat.lt_succ_self _
  · intro l hl
    rw [hreg]
    rcases mem_live_subscribe.mp hl with hl | rfl
    · obtain ⟨k, hk⟩ := h.typed l hl
      exact ⟨k, KeyRegistry.get?_keyFor_of_some hk _⟩
    · exact ⟨_, hkey⟩
  · intro l hl
    rcases mem_live_subscribe.mp hl with hl | rfl
    · rw [number_subscribe_old _ _ _ _ (h.ticketed l hl)]
      obtain ⟨b', hs, hn⟩ := h.numbered l hl
      by_cases he : l.bus = id
      · exact ⟨_, (hbus _).trans (by rw [if_pos he, hs]; rfl), Nat.lt_succ_of_lt hn⟩
      · exact ⟨b', (hbus _).trans (by rw [if_neg he, hs]), hn⟩
    · refine ⟨_, (hbus _).trans (by rw [if_pos rfl, hb]; rfl), ?_⟩
      rw [number_subscribe_new hb]
      exact Nat.lt_succ_self _
  · intro id' b' hs
    rw [hreg]
    replace hs := (hbus id').symm.trans hs
    -- the key comes first: if it had to be made, its type had nothing live
    have hold : ∀ b₀, p.keyed.bus? id' = some b₀ →
        b₀.table.Shows (p.keyed.registry.keyFor key.type).1 (p.lists id') := fun b₀ hb₀ =>
      (h.tables id' b₀ hb₀).keyFor _ fun ht => h.lists_eq_nil ht id'
    split at hs
    · rename_i he
      subst he
      rw [hb] at hs
      cases hs
      have hfile := (hold b hb).file (KeyRegistry.get?_type_keyFor ..) ⟨b.nextId, callback⟩
      refine hfile.congr fun t => ?_
      rw [lists_subscribe h hb, KeyRegistry.type_keyFor]
      simp
    · rename_i he
      refine (hold b' hs).congr fun t => ?_
      rw [lists_subscribe h hb, if_neg (fun hc => he hc.1)]

theorem keeps_subscribe (h : p.Agree) (hb : p.keyed.bus? id = some b) (key : EventKey)
    (callback : C) : p.Keeps (p.subscribe id key callback) := by
  intro t n ht
  have hnew : p.flat.tickets ≠ n := (Nat.ne_of_lt ht.made).symm
  constructor
  · exact Nat.lt_succ_of_lt ht.made
  · exact ht.opened
  · rw [Twin.subscribe, System.registry_subscribe]
    exact KeyRegistry.get?_keyFor_of_some ht.key _
  · intro b' hs
    replace hs := (System.bus?_subscribe ..).symm.trans hs
    split at hs
    · rename_i he
      rw [he, hb] at hs
      cases hs
      exact Nat.lt_succ_of_lt (ht.below b (he ▸ hb))
    · exact ht.below b' hs
  · intro l hl
    rcases mem_live_subscribe.mp hl with hl | rfl
    · rw [number_subscribe_old _ _ _ _ (h.ticketed l hl)]
      exact ht.listing l hl
    · rw [number_subscribe_new hb]
      refine ⟨fun he => absurd he hnew, fun ⟨he, hn⟩ => ?_⟩
      exact absurd hn (Nat.ne_of_gt (ht.below b (he ▸ hb)))
  · intro l hl he
    rcases mem_live_subscribe.mp hl with hl | rfl
    · exact ht.type l hl he
    · exact absurd he hnew
  · intro hu l hl
    rcases mem_live_subscribe.mp hl with hl | rfl
    · exact ht.used hu l hl
    · exact hnew

/-- The token of a new subscription stands for the ticket of its listing. -/
theorem stands_subscribe (h : p.Agree) (hb : p.keyed.bus? id = some b) (key : EventKey)
    (callback : C) :
    (p.subscribe id key callback).Stands (p.keyed.subscribe id key callback).2
      p.flat.tickets := by
  rw [System.token_subscribe hb]
  constructor
  · exact Nat.lt_succ_self _
  · exact h.opened ▸ System.bus?_lt hb
  · rw [Twin.subscribe, System.registry_subscribe]
    exact KeyRegistry.get?_type_keyFor ..
  · intro b' hs
    replace hs := (System.bus?_subscribe ..).symm.trans hs
    rw [if_pos rfl, hb] at hs
    cases hs
    exact Nat.lt_succ_self _
  · intro l hl
    rcases mem_live_subscribe.mp hl with hl | rfl
    · have hlt := h.ticketed l hl
      rw [number_subscribe_old _ _ _ _ hlt]
      -- an older listing of the same bus has a number below the bus's next
      refine ⟨fun he => absurd he (Nat.ne_of_lt hlt), fun ⟨he, hn⟩ => ?_⟩
      obtain ⟨b', hs, hn'⟩ := h.numbered l hl
      rw [show l.bus = id from he, hb] at hs
      cases hs
      exact absurd hn (Nat.ne_of_lt hn')
    · rw [number_subscribe_new hb]
      simp
  · intro l hl he
    rcases mem_live_subscribe.mp hl with hl | rfl
    · exact absurd he (Nat.ne_of_lt (h.ticketed l hl))
    · simp
  · exact fun hu => absurd hu (by simp)

/-! ### Removing -/

/-- The account loses the listings that do not stay, and the keyed buses become
what they are given as. -/
def prune (p : Twin C) (s : System C) (stays : Listing C → Bool) : Twin C :=
  { p with keyed := s, flat := { p.flat with live := p.flat.live.filter stays } }

theorem lists_prune (p : Twin C) (s : System C) (stays : Listing C → Bool) (id : BusId)
    (t : EventType) :
    (p.prune s stays).lists id t = ((p.flat.on id t).filter stays).map p.filed := by
  simp only [lists, prune, FlatBuses.on, List.filter_filter, Bool.and_comm]
  rfl

theorem lists_prune_all {s : System C} {stays : Listing C → Bool} {id : BusId} {t : EventType}
    (h : ∀ l ∈ p.flat.live, l.bus = id → l.type = t → stays l = true) :
    (p.prune s stays).lists id t = p.lists id t := by
  rw [lists_prune, lists]
  refine congrArg _ (List.filter_eq_self.mpr fun l hl => ?_)
  obtain ⟨hl, hq⟩ := List.mem_filter.mp hl
  obtain ⟨hbus, htype⟩ := of_decide_eq_true hq
  exact h l hl hbus htype

theorem lists_prune_none {s : System C} {stays : Listing C → Bool} {id : BusId} {t : EventType}
    (h : ∀ l ∈ p.flat.live, l.bus = id → l.type = t → stays l = false) :
    (p.prune s stays).lists id t = [] := by
  rw [lists_prune, List.filter_eq_nil_iff.mpr, List.map_nil]
  intro l hl
  obtain ⟨hl, hq⟩ := List.mem_filter.mp hl
  obtain ⟨hbus, htype⟩ := of_decide_eq_true hq
  rw [h l hl hbus htype]
  exact Bool.false_ne_true

/-- What a removal has to do: each table that is still open shows what stays, and
a listing that stays is on an open bus. -/
theorem Agree.prune (h : p.Agree) {s : System C} {stays : Listing C → Bool}
    (length : s.buses.length = p.keyed.buses.length)
    (registry : s.registry = p.keyed.registry)
    (opened : ∀ l ∈ p.flat.live, stays l = true → ∀ b, p.keyed.bus? l.bus = some b →
      ∃ b', s.bus? l.bus = some b' ∧ b'.nextId = b.nextId)
    (tables : ∀ id b', s.bus? id = some b' →
      b'.table.Shows p.keyed.registry ((p.prune s stays).lists id)) :
    (p.prune s stays).Agree := by
  constructor
  · exact length.trans h.opened
  · exact fun l hl => h.ticketed l (List.mem_filter.mp hl).1
  · exact fun l hl => registry ▸ h.typed l (List.mem_filter.mp hl).1
  · intro l hl
    obtain ⟨hl, hstays⟩ := List.mem_filter.mp hl
    obtain ⟨b, hs, hn⟩ := h.numbered l hl
    obtain ⟨b', hs', hid⟩ := opened l hl hstays b hs
    exact ⟨b', hs', hid ▸ hn⟩
  · exact fun id b' hs => registry ▸ tables id b' hs

theorem keeps_prune {s : System C} {stays : Listing C → Bool}
    (registry : s.registry = p.keyed.registry)
    (numbers : ∀ id b', s.bus? id = some b' →
      ∃ b, p.keyed.bus? id = some b ∧ b'.nextId = b.nextId) :
    p.Keeps (p.prune s stays) := by
  intro t n ht
  constructor
  · exact ht.made
  · exact ht.opened
  · exact registry ▸ ht.key
  · intro b' hs
    obtain ⟨b, hb, hn⟩ := numbers _ b' hs
    exact hn ▸ ht.below b hb
  · exact fun l hl => ht.listing l (List.mem_filter.mp hl).1
  · exact fun l hl => ht.type l (List.mem_filter.mp hl).1
  · exact fun hu l hl => ht.used hu l (List.mem_filter.mp hl).1

/-- A removal that changes the table of one open bus. -/
theorem prune_table (h : p.Agree) (s : System C) (stays : Listing C → Bool) (id : BusId)
    (f : SubscriberTable C → SubscriberTable C)
    (length : s.buses.length = p.keyed.buses.length)
    (registry : s.registry = p.keyed.registry)
    (bus : ∀ id', s.bus? id' =
      if id' = id then (p.keyed.bus? id').map fun b => { b with table := f b.table }
      else p.keyed.bus? id')
    (elsewhere : ∀ l ∈ p.flat.live, l.bus ≠ id → stays l = true)
    (table : ∀ b, p.keyed.bus? id = some b →
      (f b.table).Shows p.keyed.registry ((p.prune s stays).lists id)) :
    (p.prune s stays).Agree ∧ p.Keeps (p.prune s stays) := by
  have hopened : ∀ id' b, p.keyed.bus? id' = some b →
      ∃ b', s.bus? id' = some b' ∧ b'.nextId = b.nextId := by
    intro id' b hb
    rw [bus]
    split
    · exact ⟨{ b with table := f b.table }, by rw [hb]; rfl, rfl⟩
    · exact ⟨b, hb, rfl⟩
  refine ⟨h.prune length registry (fun l _ _ b hb => hopened _ b hb) ?_,
    keeps_prune registry ?_⟩
  · intro id' b' hs
    rw [bus] at hs
    split at hs
    · rename_i he
      subst he
      obtain ⟨b, hb, rfl⟩ := Option.map_eq_some_iff.mp hs
      exact table b hb
    · rename_i he
      refine (h.tables id' b' hs).congr fun t => (lists_prune_all ?_).symm
      exact fun l hl hbus _ => elsewhere l hl (hbus ▸ he)
  · intro id' b' hs
    rw [bus] at hs
    split at hs
    · obtain ⟨b, hb, rfl⟩ := Option.map_eq_some_iff.mp hs
      exact ⟨b, hb, rfl⟩
    · exact ⟨b', hs, rfl⟩

def remove (p : Twin C) (t : Token) (n : Nat) : Twin C :=
  { p with keyed := (p.keyed.remove t).1, flat := p.flat.remove n }

theorem remove_used {t : Token} {n : Nat} (ht : p.Stands t n) (hu : t.removed = true) :
    p.remove t n = p := by
  have hlive : p.flat.live.filter (·.ticket ≠ n) = p.flat.live :=
    List.filter_eq_self.mpr fun l hl => decide_eq_true (ht.used hu l hl)
  rw [remove, System.remove_of_removed _ hu, FlatBuses.remove, hlive]

/-- The table loses the number of the token where the account loses its ticket. -/
theorem shows_remove (h : p.Agree) {t : Token} {n : Nat} (ht : p.Stands t n)
    (hb : p.keyed.bus? t.bus = some b) (s : System C) :
    (b.table.remove t.key t.id).Shows p.keyed.registry
      ((p.prune s (·.ticket ≠ n)).lists t.bus) := by
  refine ((h.tables _ b hb).remove ht.key t.id).congr fun u => ?_
  split
  · rw [lists_prune, lists, List.filter_map]
    refine congrArg _ (List.filter_congr fun l hl => ?_)
    obtain ⟨hl, hq⟩ := List.mem_filter.mp hl
    have hl := ht.listing l hl
    simp only [(of_decide_eq_true hq).1, true_and] at hl
    exact decide_eq_decide.mpr (not_congr hl.symm)
  · rename_i hu
    refine (lists_prune_all fun l hl _ htype => ?_).symm
    exact decide_eq_true fun he => hu (htype.symm.trans (ht.type l hl he))

/-- Using a token is removing its ticket. Afterwards it stands for that ticket as
a used one. -/
theorem remove_spec (h : p.Agree) {t : Token} {n : Nat} (ht : p.Stands t n) :
    (p.remove t n).Agree ∧ p.Keeps (p.remove t n) ∧
      (p.remove t n).Stands (p.keyed.remove t).2 n := by
  have hboth : (p.remove t n).Agree ∧ p.Keeps (p.remove t n) := by
    cases hu : t.removed with
    | true =>
      -- nothing live has the ticket any more, so neither side changes
      rw [remove_used ht hu]
      exact ⟨h, .refl p⟩
    | false =>
      refine prune_table h _ _ t.bus (·.remove t.key t.id) (System.length_remove ..)
        (System.registry_remove ..) (System.bus?_remove _ hu) ?_ fun b hb => shows_remove h ht hb _
      exact fun l hl hne => decide_eq_true fun he => hne ((ht.listing l hl).mp he).1
  obtain ⟨hagree, hkeeps⟩ := hboth
  refine ⟨hagree, hkeeps, ?_⟩
  have hafter := hkeeps t n ht
  rw [System.token_remove]
  refine ⟨hafter.made, hafter.opened, hafter.key, hafter.below, hafter.listing, hafter.type, ?_⟩
  exact fun _ l hl => of_decide_eq_true (List.mem_filter.mp hl).2

theorem removeAll_spec (h : p.Agree) {ts : List Token} {ns : List Nat}
    (hts : List.Forall₂ p.Stands ts ns) :
    Agree { p with keyed := p.keyed.removeAll ts, flat := p.flat.removeAll ns } ∧
      p.Keeps { p with keyed := p.keyed.removeAll ts, flat := p.flat.removeAll ns } := by
  induction ts generalizing p ns with
  | nil =>
    cases hts
    exact ⟨h, .refl p⟩
  | cons t ts ih =>
    cases hts with
    | cons ht hts =>
      obtain ⟨hagree, hkeeps, -⟩ := remove_spec h ht
      obtain ⟨hagree', hkeeps'⟩ := ih hagree (hts.imp hkeeps)
      exact ⟨hagree', hkeeps.trans hkeeps'⟩

theorem unbind_spec (h : p.Agree) {ts : List Token} {ns : List Nat}
    (hts : List.Forall₂ p.Stands ts ns) :
    Agree { p with keyed := (p.keyed.unbind ⟨ts⟩).1, flat := p.flat.removeAll ns } ∧
      p.Keeps { p with keyed := (p.keyed.unbind ⟨ts⟩).1, flat := p.flat.removeAll ns } ∧
      (p.keyed.unbind ⟨ts⟩).2.tokens = [] := by
  obtain ⟨hagree, hkeeps⟩ := removeAll_spec h hts
  cases hts with
  | nil => exact ⟨hagree, hkeeps, rfl⟩
  | cons _ _ => exact ⟨hagree.congr rfl rfl, hkeeps.trans (keeps_congr rfl rfl), rfl⟩

/-- The listings of a type that stay are all or none, as the type is not or is the
one that goes. -/
theorem lists_prune_type (s : System C) (id : BusId) (t u : EventType) :
    (p.prune s fun l => ¬(l.bus = id ∧ l.type = t)).lists id u =
      if u = t then [] else p.lists id u := by
  split
  · rename_i hu
    exact lists_prune_none fun l _ hbus htype =>
      decide_eq_false fun hc => hc ⟨hbus, htype.trans hu⟩
  · rename_i hu
    exact lists_prune_all fun l _ _ htype =>
      decide_eq_true fun hc => hu (htype.symm.trans hc.2)

theorem unsubscribeAll_spec (h : p.Agree) (id : BusId) (t : EventType) :
    Agree { p with keyed := p.keyed.unsubscribeAll id t, flat := p.flat.unsubscribeAll id t } ∧
      p.Keeps { p with
        keyed := p.keyed.unsubscribeAll id t, flat := p.flat.unsubscribeAll id t } := by
  have hboth := prune_table (h.keyFor t) (p.keyed.unsubscribeAll id t)
    (fun l => ¬(l.bus = id ∧ l.type = t)) id (·.dropKey (p.keyed.registry.keyFor t).2)
    (by rw [System.length_unsubscribeAll, System.buses_keyFor])
    (by rw [System.registry_unsubscribeAll, System.registry_keyFor])
    (fun id' => by rw [System.bus?_keyFor]; exact System.bus?_unsubscribeAll ..)
    (fun l _ hne => decide_eq_true fun hc => hne hc.1)
    (fun b hb => ?_)
  · exact ⟨hboth.1, (keeps_keyFor t).trans hboth.2⟩
  · have hshows := (h.keyFor t).tables id b hb
    simp only [System.registry_keyFor] at hshows ⊢
    refine (hshows.dropKey (KeyRegistry.get?_type_keyFor ..)).congr fun u => ?_
    rw [lists_prune_type, KeyRegistry.type_keyFor]

theorem lists_prune_bus (s : System C) (id id' : BusId) (t : EventType) :
    (p.prune s (·.bus ≠ id)).lists id' t = if id' = id then [] else p.lists id' t := by
  split
  · rename_i he
    exact lists_prune_none fun l _ hbus _ => decide_eq_false fun hc => hc (hbus.trans he)
  · rename_i he
    exact lists_prune_all fun l _ hbus _ => decide_eq_true fun hc => he (hbus.symm.trans hc)

theorem clear_spec (h : p.Agree) (id : BusId) :
    Agree { p with keyed := p.keyed.clear id, flat := p.flat.clear id } ∧
      p.Keeps { p with keyed := p.keyed.clear id, flat := p.flat.clear id } := by
  refine prune_table h _ _ id (fun _ => .empty) (System.length_clear ..) (System.registry_clear ..)
    (System.bus?_clear p.keyed id) (fun l _ hne => decide_eq_true hne) fun b _ => ?_
  refine SubscriberTable.Shows.empty.congr fun t => ?_
  rw [lists_prune_bus, if_pos rfl]

theorem dropBus_spec (h : p.Agree) (id : BusId) :
    Agree { p with keyed := p.keyed.dropBus id, flat := p.flat.clear id } ∧
      p.Keeps { p with keyed := p.keyed.dropBus id, flat := p.flat.clear id } := by
  have hbus := System.bus?_dropBus p.keyed id
  have hopen : ∀ id' b, (p.keyed.dropBus id).bus? id' = some b →
      id' ≠ id ∧ p.keyed.bus? id' = some b := by
    intro id' b hb
    rw [hbus] at hb
    split at hb
    · cases hb
    · rename_i he
      exact ⟨he, hb⟩
  refine ⟨h.prune (List.length_set ..) rfl ?_ ?_, keeps_prune rfl ?_⟩
  · intro l _ hstays b hb
    exact ⟨b, by rw [hbus, if_neg (of_decide_eq_true hstays)]; exact hb, rfl⟩
  · intro id' b hb
    obtain ⟨he, hb⟩ := hopen id' b hb
    refine (h.tables id' b hb).congr fun t => ?_
    rw [lists_prune_bus, if_neg he]
  · exact fun id' b hb => ⟨b, (hopen id' b hb).2, rfl⟩

/-! ### Binding -/

/-- Subscribing to a type whose key may have to be made first. -/
theorem subscribe_spec (h : p.Agree) (hopen : p.keyed.isOpen id = true) (t : EventType)
    (callback : C) :
    ∃ number,
      let s := (p.keyed.keyFor t).1.subscribe id (p.keyed.keyFor t).2 callback
      let q : Twin C := ⟨s.1, (p.flat.subscribe id t callback).1, number⟩
      q.Agree ∧ p.Keeps q ∧ q.Stands s.2 p.flat.tickets := by
  obtain ⟨b, hb⟩ := Option.isSome_iff_exists.mp hopen
  have hb : (p.keyed.keyFor t).1.bus? id = some b := (System.bus?_keyFor ..).trans hb
  have hkeyed := h.keyFor t
  have htype : (p.keyed.keyFor t).2.type = t := by
    rw [System.key_keyFor, KeyRegistry.type_keyFor]
  generalize (p.keyed.keyFor t).2 = key at htype ⊢
  let q := Twin.subscribe { p with keyed := (p.keyed.keyFor t).1 } id key callback
  have hagree : q.Agree := hkeyed.subscribe hb key callback
  have hkeeps : p.Keeps q := (keeps_keyFor t).trans (keeps_subscribe hkeyed hb key callback)
  have hstands : q.Stands _ p.flat.tickets := stands_subscribe hkeyed hb key callback
  have hflat : q.flat = (p.flat.subscribe id t callback).1 := by rw [← htype]; rfl
  refine ⟨q.number, ?_⟩
  rw [← hflat]
  exact ⟨hagree, hkeeps, hstands⟩

/-- Subscribing a whole wiring gives one token for each subscription, and each
stands for its ticket. -/
theorem subscribeAll_spec {A : Type} {p : Twin (Callback A)} (h : p.Agree) {id : BusId}
    (hopen : p.keyed.isOpen id = true) (handle : BindingHandle)
    (wiring : List (EventType × Callback A)) :
    ∃ number ts,
      let q : Twin (Callback A) :=
        ⟨(p.keyed.subscribeAll id handle wiring).1, (p.flat.subscribeAll id wiring).1, number⟩
      q.Agree ∧ p.Keeps q ∧ (p.keyed.subscribeAll id handle wiring).2.tokens = handle.tokens ++ ts ∧
        List.Forall₂ q.Stands ts (p.flat.subscribeAll id wiring).2 := by
  induction wiring generalizing p handle with
  | nil => exact ⟨p.number, [], h, .refl p, (List.append_nil _).symm, .nil⟩
  | cons w rest ih =>
    obtain ⟨t, callback⟩ := w
    obtain ⟨number₁, hagree₁, hkeeps₁, hstands₁⟩ := subscribe_spec h hopen t callback
    let s := (p.keyed.keyFor t).1.subscribe id (p.keyed.keyFor t).2 callback
    have hopen₁ : s.1.isOpen id = true :=
      (System.isOpen_subscribe ..).trans
        ((System.isOpen_congr (System.buses_keyFor ..) id).trans hopen)
    obtain ⟨number, ts, hagree, hkeeps, htokens, hstands⟩ := ih hagree₁ hopen₁ (handle.push s.2)
    refine ⟨number, s.2 :: ts, hagree, hkeeps₁.trans hkeeps, ?_, ?_⟩
    · refine htokens.trans ?_
      rw [BindingHandle.push, List.append_assoc, List.singleton_append]
    · exact .cons (hkeeps _ _ hstands₁) hstands

theorem bind_spec {A T : Type} {p : Twin (Callback A)} (h : p.Agree) {id : BusId}
    (hopen : p.keyed.isOpen id = true) (binder : EventBinder T A) (target : Shared T) :
    ∃ number,
      let s := p.keyed.bind id binder target
      let q : Twin (Callback A) := ⟨s.1, (p.flat.subscribeAll id (binder.wiring target)).1, number⟩
      q.Agree ∧ p.Keeps q ∧
        List.Forall₂ q.Stands s.2.tokens (p.flat.subscribeAll id (binder.wiring target)).2 := by
  obtain ⟨number, ts, hagree, hkeeps, htokens, hstands⟩ :=
    subscribeAll_spec h hopen .empty (binder.wiring target)
  -- the binding is reported last, which touches neither registry nor places
  let q : Twin (Callback A) :=
    ⟨(p.keyed.subscribeAll id .empty (binder.wiring target)).1,
      (p.flat.subscribeAll id (binder.wiring target)).1, number⟩
  have hlog : q.Keeps { q with keyed := (p.keyed.bind id binder target).1 } := keeps_congr rfl rfl
  have hts : (p.keyed.bind id binder target).2.tokens = ts := htokens
  refine ⟨number, hagree.congr rfl rfl, hkeeps.trans hlog, ?_⟩
  rw [hts]
  exact hstands.imp hlog

/-! ### What can be asked -/

theorem Agree.subscribersOf (h : p.Agree) (hb : p.keyed.bus? id = some b) (e : Event) :
    p.keyed.subscribersOf id e = p.lists id e.eventType := by
  unfold System.subscribersOf
  rw [hb]
  cases hk : p.keyed.registry.get? e.eventType with
  | none => exact (h.lists_eq_nil hk id).symm
  | some k => exact (h.tables id b hb).listFor hk

theorem Agree.count (h : p.Agree) (hb : p.keyed.bus? id = some b) (t : EventType) :
    (p.keyed.count id t).2 = (p.flat.on id t).length := by
  have hshows := (h.keyFor t).tables id b ((System.bus?_keyFor ..).trans hb)
  rw [System.registry_keyFor] at hshows
  have hlist := hshows.listFor (KeyRegistry.get?_keyFor_self p.keyed.registry t)
  simp only [System.count, System.bus?_keyFor, hb, System.key_keyFor, Option.map_some,
    Option.getD_some, hlist, lists, List.length_map]

/-- Elements counted group by group. -/
theorem sum_length_filter {α κ : Type} [DecidableEq κ] (f : α → κ) {ks : List κ} (hks : ks.Nodup)
    (xs : List α) (h : ∀ x ∈ xs, f x ∈ ks) :
    (ks.map fun k => (xs.filter (f · = k)).length).sum = xs.length := by
  induction ks generalizing xs with
  | nil =>
    cases xs with
    | nil => rfl
    | cons x xs => exact absurd (h x (by simp)) List.not_mem_nil
  | cons k ks ih =>
    obtain ⟨hk, hks⟩ := List.nodup_cons.mp hks
    -- the first group is taken out, and the other groups count what is left
    have hrest := ih hks (xs.filter fun x => f x ≠ k) fun x hx => by
      obtain ⟨hx, hne⟩ := List.mem_filter.mp hx
      exact (List.mem_cons.mp (h x hx)).resolve_left (of_decide_eq_true hne)
    have hsame : (ks.map fun k' => ((xs.filter fun x => f x ≠ k).filter (f · = k')).length) =
        ks.map fun k' => (xs.filter (f · = k')).length := by
      refine List.map_congr_left fun k' hk' => ?_
      rw [List.filter_filter]
      refine congrArg _ (List.filter_congr fun x _ => ?_)
      have hne : k' ≠ k := fun he => hk (he ▸ hk')
      by_cases hx : f x = k' <;> simp [hx, hne]
    rw [hsame] at hrest
    have hsplit := List.length_eq_length_filter_add (l := xs) fun x => decide (f x = k)
    simp only [← decide_not] at hsplit
    rw [List.map_cons, List.sum_cons, hrest, hsplit]

theorem Agree.total (h : p.Agree) (hb : p.keyed.bus? id = some b) :
    p.keyed.total id = p.flat.total id := by
  have hshows := h.tables id b hb
  have hlist : (b.table.keys.map fun k => (b.table.listFor k).length) =
      (b.table.keys.map EventKey.type).map fun t =>
        ((p.flat.live.filter (·.bus = id)).filter (·.type = t)).length := by
    rw [List.map_map]
    refine List.map_congr_left fun k hk => ?_
    rw [hshows.list k (hshows.registered k hk), lists, List.length_map, FlatBuses.on,
      Function.comp, List.filter_filter]
    simp [Bool.and_comm]
  have hnodup : (b.table.keys.map EventKey.type).Nodup :=
    List.Nodup.map_on (fun k hk k' hk' he =>
      (SubscriberTable.Shows.eq_of_type (hshows.registered k hk)
        (hshows.registered k' hk')).mpr he) hshows.tidy.nodup
  -- what is live was filed, and a key with something filed is among the keys
  have hcover : ∀ l ∈ p.flat.live.filter (·.bus = id), l.type ∈ b.table.keys.map EventKey.type := by
    intro l hl
    obtain ⟨hlive, hbus⟩ := List.mem_filter.mp hl
    obtain ⟨k, hk⟩ := h.typed l hlive
    have htype := KeyRegistry.type_of_get? hk
    have hmem : p.filed l ∈ b.table.listFor k := by
      rw [hshows.listFor hk]
      exact List.mem_map_of_mem (List.mem_filter.mpr
        ⟨hlive, decide_eq_true ⟨of_decide_eq_true hbus, rfl⟩⟩)
    refine List.mem_map.mpr ⟨k, ?_, htype⟩
    by_cases hk : k ∈ b.table.keys
    · exact hk
    · rw [SubscriberTable.listFor_of_not_mem hk] at hmem
      exact absurd hmem List.not_mem_nil
  have hsum := SubscriberTable.total_eq_sum hshows.tidy.nodup
  rw [hlist, sum_length_filter _ hnodup _ hcover] at hsum
  simp [System.total, hb, hsum, FlatBuses.total]

end Twin

/-! ### Tables read by type -/

/-- The table of a bus, unless that was dropped, read as a map of types. -/
def System.tableOf (s : System C) (id : BusId) : Option (EventType → Option (List C)) :=
  (s.bus? id).map fun b => b.table.byType

/-- The callbacks that are filed for a type on a bus. -/
def System.filedFor (s : System C) (id : BusId) (t : EventType) : List C :=
  ((s.tableOf id).bind fun table => table t).getD []

namespace Twin

variable {p q : Twin C} {id : BusId}

theorem Agree.byType (h : p.Agree) {b : Bus C} (hb : p.keyed.bus? id = some b) (t : EventType) :
    b.table.byType t =
      if p.flat.on id t = [] then none else some ((p.flat.on id t).map (·.callback)) := by
  have hshows := h.tables id b hb
  rw [hshows.byType (fun u hu => h.lists_eq_nil hu id), lists, List.map_map]
  simp only [List.map_eq_nil_iff]
  rfl

/-- What is live shows the whole table. -/
theorem Agree.tableOf (h : p.Agree) (h' : q.Agree)
    (hopen : p.keyed.isOpen id = q.keyed.isOpen id)
    (hlive : ∀ t, (p.flat.on id t).map (·.callback) = (q.flat.on id t).map (·.callback)) :
    p.keyed.tableOf id = q.keyed.tableOf id := by
  unfold System.isOpen at hopen
  unfold System.tableOf
  cases hp : p.keyed.bus? id with
  | none =>
    rw [hp] at hopen
    have hq : q.keyed.bus? id = none := by simpa using hopen.symm
    rw [hq]
  | some b =>
    rw [hp] at hopen
    obtain ⟨b', hq⟩ := Option.isSome_iff_exists.mp hopen.symm
    rw [hq]
    refine congrArg some (funext fun t => ?_)
    have hnil : p.flat.on id t = [] ↔ q.flat.on id t = [] := by
      rw [← List.map_eq_nil_iff (f := (·.callback)), hlive t, List.map_eq_nil_iff]
    show b.table.byType t = b'.table.byType t
    rw [h.byType hp, h'.byType hq, hlive t]
    simp only [hnil]

/-- A publish runs what is filed for the type of its event. -/
theorem Agree.filedFor (h : p.Agree) (id : BusId) (e : Event) :
    (p.keyed.subscribersOf id e).map (·.callback) = p.keyed.filedFor id e.eventType := by
  unfold System.filedFor System.tableOf
  cases hb : p.keyed.bus? id with
  | none =>
    unfold System.subscribersOf
    rw [hb]
    rfl
  | some b =>
    rw [h.subscribersOf hb, lists, List.map_map]
    show (p.flat.on id e.eventType).map (·.callback) = (b.table.byType e.eventType).getD []
    rw [h.byType hb]
    split
    · rename_i hnil
      rw [hnil]
      rfl
    · rfl

end Twin

end EventWiring
