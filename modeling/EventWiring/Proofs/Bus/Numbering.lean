import EventWiring.Proofs.Bus.Alike

/-! The numbers of subscriptions. A bus numbers its subscriptions as they are made
and gives no number twice, so each list of its table stands in the order of the
numbers and no two lists share one. This is an instance of a rule: what is true of
a new bus, and stays true when its table is filed in or loses something, is true of
every bus that a program can come to. -/
namespace EventWiring

variable {C : Type}

/-! ### Tables -/

namespace SubscriberTable

/-- Each list is in the order of its numbers, no two lists have a number in common,
and all numbers are below the next one. -/
structure Numbered (t : SubscriberTable C) (next : Nat) : Prop where
  increasing : ∀ k, (t.listFor k).Pairwise (·.id < ·.id)
  apart : ∀ k k', k ≠ k' → ∀ s ∈ t.listFor k, ∀ s' ∈ t.listFor k', s.id ≠ s'.id
  below : ∀ k, ∀ s ∈ t.listFor k, s.id < next

namespace Numbered

variable {t : SubscriberTable C} {next : Nat}

/-- Lists that only lose subscriptions stay as they have to be. -/
theorem shrink (h : t.Numbered next) {t' : SubscriberTable C}
    (hsub : ∀ k, (t'.listFor k).Sublist (t.listFor k)) : t'.Numbered next := by
  constructor
  · intro k
    exact (h.increasing k).sublist (hsub k)
  · intro k k' hne s hs s' hs'
    exact h.apart k k' hne s ((hsub k).subset hs) s' ((hsub k').subset hs')
  · intro k s hs
    exact h.below k s ((hsub k).subset hs)

theorem empty (h : t.Numbered next) : (empty : SubscriberTable C).Numbered next :=
  h.shrink fun _ => List.nil_sublist _

theorem remove (h : t.Numbered next) (hkeys : t.keys.Nodup) (key : EventKey) (id : Nat) :
    (t.remove key id).Numbered next := by
  refine h.shrink fun k => ?_
  rw [listFor_remove hkeys]
  split
  · exact List.filter_sublist
  · exact .refl _

theorem dropKey (h : t.Numbered next) (key : EventKey) : (t.dropKey key).Numbered next := by
  refine h.shrink fun k => ?_
  rw [listFor_dropKey]
  split
  · exact List.nil_sublist _
  · exact .refl _

/-- The next number is larger than all that were given, whichever list it goes to. -/
theorem file (h : t.Numbered next) (key : EventKey) (callback : C) :
    (t.file key ⟨next, callback⟩).Numbered (next + 1) := by
  have hmem : ∀ k s, s ∈ (t.file key ⟨next, callback⟩).listFor k →
      s ∈ t.listFor k ∨ (k = key ∧ s = ⟨next, callback⟩) := by
    intro k s hs
    rw [listFor_file] at hs
    split at hs
    · rename_i hk
      rcases List.mem_append.mp hs with hs | hs
      · exact .inl hs
      · exact .inr ⟨hk, List.mem_singleton.mp hs⟩
    · exact .inl hs
  constructor
  · intro k
    rw [listFor_file]
    split
    · refine List.pairwise_append.mpr ⟨h.increasing k, List.pairwise_singleton .., ?_⟩
      intro s hs s' hs'
      rw [List.mem_singleton.mp hs']
      exact h.below k s hs
    · exact h.increasing k
  · intro k k' hne s hs s' hs'
    -- at most one of the two is the new one, since it is in one list only
    rcases hmem k s hs with hold | ⟨hk, rfl⟩
    · rcases hmem k' s' hs' with hold' | ⟨-, rfl⟩
      · exact h.apart k k' hne s hold s' hold'
      · exact Nat.ne_of_lt (h.below k s hold)
    · rcases hmem k' s' hs' with hold' | ⟨hk', -⟩
      · exact Nat.ne_of_gt (h.below k' s' hold')
      · exact absurd (hk.trans hk'.symm) hne
  · intro k s hs
    rcases hmem k s hs with hold | ⟨-, rfl⟩
    · exact Nat.lt_succ_of_lt (h.below k s hold)
    · exact Nat.lt_succ_self next

/-- The same, of the entries of a table. -/
theorem entries (h : t.Numbered next) (hkeys : t.keys.Nodup) :
    (∀ e ∈ t.entries, e.2.Pairwise (·.id < ·.id)) ∧
      (t.entries.Pairwise fun e e' => ∀ s ∈ e.2, ∀ s' ∈ e'.2, s.id ≠ s'.id) ∧
      ∀ e ∈ t.entries, ∀ s ∈ e.2, s.id < next := by
  have hlist : ∀ e ∈ t.entries, t.listFor e.1 = e.2 := fun e he => listFor_of_mem hkeys he
  refine ⟨fun e he => ?_, ?_, fun e he s hs => ?_⟩
  · rw [← hlist e he]
    exact h.increasing e.1
  · have hne : t.entries.Pairwise fun e e' => e.1 ≠ e'.1 := List.pairwise_map.mp hkeys
    refine hne.imp_of_mem fun {e e'} he he' hkey => ?_
    rw [← hlist e he, ← hlist e' he']
    exact h.apart e.1 e'.1 hkey
  · exact h.below e.1 s (hlist e he ▸ hs)

end Numbered

end SubscriberTable

/-! ### What every bus keeps -/

/-- A property that a new bus has, and that a bus keeps when a callback is filed
under its next number, when a subscription or a key is removed, and when its table is
emptied. -/
structure Bus.Invariant (P : Bus C → Prop) : Prop where
  new : ∀ config, P (.new config)
  file : ∀ b, P b → ∀ key callback,
    P { b with table := b.table.file key ⟨b.nextId, callback⟩, nextId := b.nextId + 1 }
  remove : ∀ b, P b → ∀ key id, P { b with table := b.table.remove key id }
  dropKey : ∀ b, P b → ∀ key, P { b with table := b.table.dropKey key }
  clear : ∀ b, P b → P { b with table := .empty }

/-- A bus whose table is tidy and numbered. -/
def Bus.Numbered (b : Bus C) : Prop := b.table.Tidy ∧ b.table.Numbered b.nextId

theorem Bus.invariant_numbered : Bus.Invariant (Bus.Numbered (C := C)) where
  new _ := by
    refine ⟨.empty, ?_, ?_, ?_⟩
    · exact fun _ => .nil
    · exact fun _ _ _ s hs => absurd hs List.not_mem_nil
    · exact fun _ s hs => absurd hs List.not_mem_nil
  file _ h key _ := ⟨h.1.file key _, h.2.file key _⟩
  remove _ h key id := ⟨h.1.remove key id, h.2.remove h.1.nodup key id⟩
  dropKey _ h key := ⟨h.1.dropKey key, h.2.dropKey key⟩
  clear _ h := ⟨.empty, h.2.empty⟩

namespace System

/-- Every open bus has a property. -/
def Each (P : Bus C → Prop) (s : System C) : Prop := ∀ id b, s.bus? id = some b → P b

namespace Each

variable {P : Bus C → Prop} {s : System C}

theorem congr (h : s.Each P) {t : System C} (hbuses : t.buses = s.buses) : t.Each P := by
  intro id b hb
  exact h id b ((bus?_congr hbuses id).symm.trans hb)

/-- One bus changes, and keeps the property. -/
theorem change (h : s.Each P) {t : System C} {id : BusId} {f : Bus C → Bus C}
    (hbus : ∀ id', t.bus? id' = if id' = id then (s.bus? id').map f else s.bus? id')
    (hf : ∀ b, P b → P (f b)) : t.Each P := by
  intro id' b hb
  rw [hbus] at hb
  split at hb
  · obtain ⟨b₀, hb₀, rfl⟩ := Option.map_eq_some_iff.mp hb
    exact hf b₀ (h id' b₀ hb₀)
  · exact h id' b hb

variable (inv : Bus.Invariant P) (h : s.Each P)

include h in
theorem keyFor (t : EventType) : (s.keyFor t).1.Each P := h.congr (buses_keyFor ..)

include inv h

theorem openBus (config : BusConfig) : (s.openBus config).1.Each P := by
  intro id b hb
  rw [bus?_openBus] at hb
  split at hb
  · cases hb
    exact inv.new config
  · exact h id b hb

omit inv in
theorem dropBus (id : BusId) : (s.dropBus id).Each P := by
  intro id' b hb
  rw [bus?_dropBus] at hb
  split at hb
  · cases hb
  · exact h id' b hb

theorem subscribe (id : BusId) (key : EventKey) (callback : C) :
    (s.subscribe id key callback).1.Each P :=
  h.change (s.bus?_subscribe id key callback) fun b hb => inv.file b hb _ _

theorem remove (t : Token) : (s.remove t).1.Each P := by
  cases hu : t.removed with
  | true =>
    rw [remove_of_removed s hu]
    exact h
  | false => exact h.change (s.bus?_remove hu) fun b hb => inv.remove b hb _ _

theorem removeAll (tokens : List Token) : (s.removeAll tokens).Each P := by
  induction tokens generalizing s with
  | nil => exact h
  | cons t rest ih => exact ih (remove inv h t)

theorem unbind (handle : BindingHandle) : (s.unbind handle).1.Each P := by
  unfold System.unbind
  split
  · exact h
  · exact removeAll inv h handle.tokens

theorem unsubscribeAll (id : BusId) (t : EventType) : (s.unsubscribeAll id t).Each P :=
  h.change (s.bus?_unsubscribeAll id t) fun b hb => inv.dropKey b hb _

theorem clear (id : BusId) : (s.clear id).Each P :=
  h.change (s.bus?_clear id) inv.clear

end Each

theorem Each.subscribeAll {A : Type} {P : Bus (Callback A) → Prop} {s : System (Callback A)}
    (inv : Bus.Invariant P) (h : s.Each P) (bus : BusId) (handle : BindingHandle)
    (wiring : List (EventType × Callback A)) : (s.subscribeAll bus handle wiring).1.Each P := by
  induction wiring generalizing s handle with
  | nil => exact h
  | cons w rest ih => exact ih (subscribe inv (h.keyFor w.1) bus _ w.2) _

end System

/-! ### Programs -/

namespace Client

variable {A : Type} {P : Bus (Callback A) → Prop} {c : Client A}

theorem each_given (h : c.system.Each P) {N : Type} (name : Option N)
    {x : N → Client A × Answer A} (hx : ∀ n, (x n).1.system.Each P) :
    (Answer.given c name x).1.system.Each P :=
  Answer.given_ind (P := fun p : Client A × Answer A => p.1.system.Each P) h fun n _ => hx n

/-- Every request keeps what each bus keeps. -/
theorem each_step (inv : Bus.Invariant P) (h : c.system.Each P) (r : Request A) :
    (c.step idle r).1.system.Each P := by
  cases r with
  | openBus config => exact h.openBus inv config
  | cloneBus bus => exact each_given h _ fun _ => h
  | dropBus bus =>
    refine each_given h _ fun id => ?_
    dsimp only
    split
    · exact h
    · exact h.dropBus id
  | subscribe bus type body =>
    exact each_given h _ fun id => .subscribe inv (h.keyFor (.concrete type)) id _ _
  | subscribeKey bus key callback => exact each_given h _ fun id => h.subscribe inv id key callback
  | bind bus binder target => exact each_given h _ fun id => h.subscribeAll inv id .empty _
  | remove token => exact each_given h _ fun t => h.remove inv t
  | openHandle => exact h
  | push token handle => exact each_given h _ fun _ => each_given h _ fun _ => h
  | removeHeld handle place =>
    exact each_given h _ fun t => each_given h _ fun _ => h.remove inv t
  | unbind handle => exact each_given h _ fun ts => h.unbind inv ⟨ts⟩
  | unsubscribeAll bus type => exact each_given h _ fun id => h.unsubscribeAll inv id _
  | clear bus => exact each_given h _ fun id => h.clear inv id
  | count bus type => exact each_given h _ fun _ => h.keyFor (.concrete type)
  | total bus => exact each_given h _ fun _ => h
  | publish bus e =>
    exact each_given h _ fun id => h.congr (Alike.publish_idle c id e).system.buses

end Client

end EventWiring
