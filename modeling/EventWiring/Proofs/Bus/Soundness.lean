import EventWiring.Proofs.Bus.Numbering

/-! Tables are sound wherever a program can come to, inside callbacks too: every
entry of a table is some type's under the registry's key, numbers single out
subscriptions, and a token finds its own subscription or none. What a bus says of
itself follows: its total is that of the counts of its types, and the number it shows
is the number of types that anyone subscribes to. -/
namespace EventWiring

variable {A : Type}

/-! ### Where a program can come to -/

/-- The states of a program and of the callbacks it runs. Between the beginning and
the end of a publish its callbacks run, and they make requests as the program does,
publishes among them. -/
inductive Client.Occurs : Client A → Prop where
  | start (registry : KeyRegistry) : Occurs (start registry)
  | request {c : Client A} (h : Occurs c) (r : Request A) : Occurs (c.step idle r).1
  /-- A key is asked for. -/
  | keyFor {c : Client A} (h : Occurs c) (t : EventType) : Occurs ⟨c.held, (c.system.keyFor t).1⟩
  | beginPublish {c : Client A} (h : Occurs c) (id : BusId) (e : Event) :
    Occurs ⟨c.held, (c.system.beginPublish id e).1⟩
  | endPublish {c : Client A} (h : Occurs c) (id : BusId) (e : Event) (handlers : Nat) :
    Occurs ⟨c.held, c.system.endPublish id e handlers⟩

namespace Client.Occurs

variable {c : Client A}

/-- Each callback of a publish starts in a state that occurs, and so does what follows
the publish, if callbacks lead from such states to such states. -/
theorem foldl_noted {invoke : Callback A → Event → Client A → Client A}
    (acts : ∀ k e d, d.Occurs → (invoke k e d).Occurs) (e : Event)
    (subs : List (Subscription (Callback A)))
    (w : (Holdings Token × List (Invocation A)) × System (Callback A))
    (h : Occurs ⟨w.1.1, w.2⟩) :
    Occurs ⟨(subs.foldl (fun w sub => noted invoke sub.callback e w) w).1.1,
      (subs.foldl (fun w sub => noted invoke sub.callback e w) w).2⟩ := by
  induction subs generalizing w with
  | nil => exact h
  | cons sub rest ih => exact ih _ (acts sub.callback e _ h)

theorem publish {invoke : Callback A → Event → Client A → Client A}
    (acts : ∀ k e d, d.Occurs → (invoke k e d).Occurs) (h : c.Occurs) (id : BusId) (e : Event) :
    (c.publish invoke id e).1.Occurs := by
  unfold Client.publish EventWiring.publish
  dsimp only
  split
  · exact h.beginPublish id e
  · exact (foldl_noted acts e _ _ (h.beginPublish id e)).endPublish ..

theorem run (h : c.Occurs) (requests : List (Request A)) : (c.run idle requests).Occurs := by
  induction requests generalizing c with
  | nil => exact h
  | cons r rest ih => exact ih (h.request r)

theorem each {P : Bus (Callback A) → Prop} (inv : Bus.Invariant P) (h : c.Occurs) :
    c.system.Each P := by
  induction h with
  | start registry => exact fun id b hb => absurd (System.bus?_lt hb) (Nat.not_lt_zero id)
  | request _ r ih => exact each_step inv ih r
  | keyFor _ t ih => exact ih.keyFor t
  | beginPublish _ id e ih => exact ih.congr (System.buses_beginPublish ..)
  | endPublish _ id e n ih => exact ih.congr (System.buses_endPublish ..)

theorem refines (h : c.Occurs) : ∃ f, Refines c f := by
  -- a publish changes no table when it begins or ends, so the flat list need not change
  induction h with
  | start registry => exact ⟨.start, _, .start registry⟩
  | request _ r ih =>
    obtain ⟨f, number, hf⟩ := ih
    exact ⟨_, (hf.step r).1⟩
  | keyFor _ t ih =>
    obtain ⟨f, number, hf⟩ := ih
    refine ⟨f, number, hf.advance (hf.agree.keyFor t) (Twin.keeps_keyFor t) fun id => ?_⟩
    exact System.isOpen_congr (System.buses_keyFor ..) id
  | beginPublish _ id e ih =>
    obtain ⟨f, number, hf⟩ := ih
    exact ⟨f, number, hf.alike ⟨rfl, .beginPublish ..⟩⟩
  | endPublish _ id e n ih =>
    obtain ⟨f, number, hf⟩ := ih
    exact ⟨f, number, hf.alike ⟨rfl, .endPublish ..⟩⟩

end Client.Occurs

/-! ### Tokens -/

/-- A token is held, loose or in a handle. -/
def Holdings.Has {K : Type} (h : Holdings K) (k : K) : Prop :=
  some k ∈ h.tokens ∨ ∃ ks ∈ h.handles, k ∈ ks

theorem Holdings.Match.exists_of_has {K L : Type} {R : K → L → Prop} {h : Holdings K}
    {g : Holdings L} (hm : h.Match R g) {k : K} (hk : h.Has k) : ∃ l, R k l := by
  rcases hk with hk | ⟨ks, hks, hk⟩
  · obtain ⟨_, hrel⟩ := exists_of_forall₂ hm.tokens hk
    cases hrel with
    | some hkl => exact ⟨_, hkl⟩
  · obtain ⟨ls, hrel⟩ := exists_of_forall₂ hm.handles hks
    exact exists_of_forall₂ hrel hk

/-- Wherever a live subscription has a token's number, it is the token's own: filed
under the token's key, and the token was not used. -/
theorem Twin.Stands.of_mem {p : Twin (Callback A)} (h : p.Agree) {t : Token} {n : Nat}
    (ht : p.Stands t n) {b : Bus (Callback A)} (hb : p.keyed.bus? t.bus = some b)
    {entry : EventKey × List (Subscription (Callback A))} (hentry : entry ∈ b.table.entries)
    {s : Subscription (Callback A)} (hs : s ∈ entry.2) (hid : s.id = t.id) :
    entry.1 = t.key ∧ t.removed = false := by
  have hshows := h.tables t.bus b hb
  have hkey := hshows.registered entry.1 (List.mem_map_of_mem hentry)
  -- the subscription is what the table shows for some listing
  rw [← SubscriberTable.listFor_of_mem hshows.tidy.nodup hentry, hshows.list entry.1 hkey] at hs
  obtain ⟨l, hl, rfl⟩ := List.mem_map.mp hs
  obtain ⟨hlive, hq⟩ := List.mem_filter.mp hl
  obtain ⟨hbus, htype⟩ := of_decide_eq_true hq
  have hticket : l.ticket = n := (ht.listing l hlive).mpr ⟨hbus, hid⟩
  constructor
  · rw [SubscriberTable.Shows.eq_of_type hkey ht.key, ← htype]
    exact ht.type l hlive hticket
  · cases hused : t.removed with
    | false => rfl
    | true => exact absurd hticket (ht.used hused l hlive)

/-! ### Tables -/

/-- The table of a bus as it has to be. Each entry is a list that is not empty, under
the key that the registry has for one type; no key has two entries. Numbers grow
within a list, are in one list only, and are below the next one. -/
structure Bus.Sound {C : Type} (registry : KeyRegistry) (b : Bus C) : Prop where
  inhabited : ∀ e ∈ b.table.entries, e.2 ≠ []
  registered : ∀ e ∈ b.table.entries, registry.get? e.1.type = some e.1
  keys : (b.table.entries.map (·.1)).Nodup
  increasing : ∀ e ∈ b.table.entries, e.2.Pairwise (·.id < ·.id)
  apart : b.table.entries.Pairwise fun e e' => ∀ s ∈ e.2, ∀ s' ∈ e'.2, s.id ≠ s'.id
  below : ∀ e ∈ b.table.entries, ∀ s ∈ e.2, s.id < b.nextId

/-- The types that have an entry. -/
def Bus.types {C : Type} (b : Bus C) : List EventType := b.table.keys.map EventKey.type

namespace Bus.Sound

variable {C : Type} {s : System C} {id : BusId} {b : Bus C}

theorem count_of_mem (h : b.Sound s.registry) (hb : s.bus? id = some b) {k : EventKey}
    (hk : k ∈ b.table.keys) : (s.count id k.type).2 = (b.table.listFor k).length := by
  obtain ⟨e, he, rfl⟩ := List.mem_map.mp hk
  have hkey := KeyRegistry.get?_keyFor_of_some (h.registered e he) e.1.type
  rw [KeyRegistry.get?_keyFor_self] at hkey
  simp [System.count, System.bus?_keyFor, hb, Option.some.inj hkey]

/-- A type has an entry exactly if someone subscribes to it. -/
theorem mem_types_iff (h : b.Sound s.registry) (hb : s.bus? id = some b) (u : EventType) :
    u ∈ b.types ↔ 0 < (s.count id u).2 := by
  constructor
  · intro hu
    obtain ⟨k, hk, rfl⟩ := List.mem_map.mp hu
    rw [h.count_of_mem hb hk]
    obtain ⟨e, he, rfl⟩ := List.mem_map.mp hk
    rw [SubscriberTable.listFor_of_mem h.keys he]
    exact List.length_pos_of_ne_nil (h.inhabited e he)
  · intro hpos
    refine List.mem_map.mpr ⟨(s.registry.keyFor u).2, ?_, KeyRegistry.type_keyFor ..⟩
    by_cases hk : (s.registry.keyFor u).2 ∈ b.table.keys
    · exact hk
    · simp [System.count, System.bus?_keyFor, hb, SubscriberTable.listFor_of_not_mem hk] at hpos

theorem nodup_types (h : b.Sound s.registry) : b.types.Nodup := by
  refine List.Nodup.map_on (fun k hk k' hk' htype => ?_) h.keys
  obtain ⟨e, he, rfl⟩ := List.mem_map.mp hk
  obtain ⟨e', he', rfl⟩ := List.mem_map.mp hk'
  exact (SubscriberTable.Shows.eq_of_type (h.registered e he) (h.registered e' he')).mpr htype

theorem total_eq_sum (h : b.Sound s.registry) (hb : s.bus? id = some b) :
    s.total id = (b.types.map fun u => (s.count id u).2).sum := by
  have hcounts : b.types.map (fun u => (s.count id u).2) =
      b.table.keys.map fun k => (b.table.listFor k).length := by
    rw [Bus.types, List.map_map]
    exact List.map_congr_left fun k hk => h.count_of_mem hb hk
  rw [hcounts, ← SubscriberTable.total_eq_sum h.keys]
  simp [System.total, hb]

end Bus.Sound

theorem Client.Occurs.sound {c : Client A} (h : c.Occurs) {id : BusId} {b : Bus (Callback A)}
    (hb : c.system.bus? id = some b) : b.Sound c.system.registry := by
  obtain ⟨f, number, hf⟩ := h.refines
  have hshows := hf.agree.tables id b hb
  obtain ⟨htidy, hnumbered⟩ := h.each Bus.invariant_numbered id b hb
  obtain ⟨hincreasing, hapart, hbelow⟩ := hnumbered.entries htidy.nodup
  exact ⟨htidy.inhabited, fun e he => hshows.registered e.1 (List.mem_map_of_mem he), htidy.nodup,
    hincreasing, hapart, hbelow⟩

/-- In every state of a program and of its callbacks, the table of every bus is sound.
No token, loose or in a handle, has its number on a subscription under another key,
or on any once it was used. The total of a bus is the sum of the counts of its types,
and the bus shows how many types have a subscription. Publishing leads to such a state
again, whatever its callbacks do to the buses. -/
theorem Client.Occurs.tables_sound {c : Client A} (h : c.Occurs) :
    (∀ id b, c.system.bus? id = some b →
      b.Sound c.system.registry ∧
      (∀ t, c.held.Has t → t.bus = id → ∀ e ∈ b.table.entries, ∀ s ∈ e.2, s.id = t.id →
        e.1 = t.key ∧ t.removed = false) ∧
      ∃ types : List EventType, types.Nodup ∧ (∀ u, u ∈ types ↔ 0 < (c.system.count id u).2) ∧
        c.system.total id = (types.map fun u => (c.system.count id u).2).sum ∧
        b.inspect = Text.record "EventBus"
          [("event_types", toString types.length), ("config", b.config.inspect)]) ∧
    ∀ invoke : Callback A → Event → Client A → Client A,
      (∀ k e d, d.Occurs → (invoke k e d).Occurs) →
      ∀ id e, (c.publish invoke id e).1.Occurs := by
  refine ⟨fun id b hb => ?_, fun invoke acts id e => h.publish acts id e⟩
  have hsound := h.sound hb
  refine ⟨hsound, ?_, b.types, hsound.nodup_types, hsound.mem_types_iff hb,
    hsound.total_eq_sum hb, ?_⟩
  · intro t ht hbus e he s hs hid
    obtain ⟨f, number, hf⟩ := h.refines
    obtain ⟨n, hstands⟩ := hf.held.exists_of_has ht
    subst hbus
    exact hstands.of_mem hf.agree hb he hs hid
  · simp [Bus.inspect, Bus.types, SubscriberTable.keys, SubscriberTable.size]

/-- While an event is delivered, its first callback removes itself, drops the
subscription of another type and subscribes to that type anew. The old token of that
type is not used, and finds nothing under its number. -/
theorem Client.Occurs.tables_sound_in_callback :
    let opened : ConcreteType := ⟨1, "Opened"⟩
    let closed : ConcreteType := ⟨2, "Closed"⟩
    let e : Event := ⟨opened, "opened", none, .null, ""⟩
    let before := (Client.start .empty : Client Nat).run idle [.openBus .default,
      .subscribe 0 opened fun _ => 1, .subscribe 0 closed fun _ => 2, .subscribe 0 opened fun _ => 3]
    let c := (⟨before.held, (before.system.beginPublish 0 e).1⟩ : Client Nat).run idle
      [.remove 0, .unsubscribeAll 0 closed, .subscribe 0 closed fun _ => 4]
    c.Occurs ∧ c.system.total 0 = 2 ∧
      (∃ t, c.held.Has t ∧ t.id = 2 ∧ t.removed = false) ∧
      ∃ b, c.system.bus? 0 = some b ∧ b.Sound c.system.registry ∧
        b.table.entries.map (fun e => (e.1.type, e.2.map (·.id))) =
          [(.concrete opened, [3]), (.concrete closed, [4])] := by
  intro opened closed e before c
  have hbefore : before.Occurs := (Occurs.start .empty).run _
  have hc : c.Occurs := (hbefore.beginPublish 0 e).run _
  have htable : (c.system.bus? 0).map
      (fun b => b.table.entries.map fun e => (e.1.type, e.2.map (·.id))) =
      some [(.concrete opened, [3]), (.concrete closed, [4])] := by decide
  obtain ⟨b, hb, hentries⟩ := Option.map_eq_some_iff.mp htable
  obtain ⟨hsound, -⟩ := (tables_sound hc).1 0 b hb
  have hstale : some ⟨0, ⟨2, .concrete closed⟩, 2, false, true⟩ ∈ c.held.tokens := by decide
  exact ⟨hc, by decide, ⟨_, .inl hstale, rfl, rfl⟩, b, hb, hsound, hentries⟩

end EventWiring
