import EventWiring.Event.Key
import Mathlib.Data.Finset.Card
import Mathlib.Data.List.Nodup

/-! The registry of keys: a key is found under its own type, and making a key
leaves the keys that were made before. So a registry that began empty has one key for
each type that was asked for, numbered from 1 in the order of first use. -/
namespace EventWiring

namespace KeyRegistry

/-! ### One type -/

theorem type_of_get? {r : KeyRegistry} {t : EventType} {k : EventKey} (h : r.get? t = some k) :
    k.type = t := by
  simpa using List.find?_some h

/-- Keys stay: making a key leaves every key that was made before. -/
theorem get?_keyFor_of_some {r : KeyRegistry} {u : EventType} {k : EventKey}
    (h : r.get? u = some k) (t : EventType) : (r.keyFor t).1.get? u = some k := by
  unfold keyFor
  split
  · exact h
  · simp only [get?, List.find?_append] at h ⊢
    simp [h]

theorem get?_keyFor_self (r : KeyRegistry) (t : EventType) :
    (r.keyFor t).1.get? t = some (r.keyFor t).2 := by
  unfold keyFor
  split
  · assumption
  · rename_i h
    simp only [get?, List.find?_append] at h ⊢
    simp [h, fresh]

theorem get?_keyFor_ne (r : KeyRegistry) {t u : EventType} (h : u ≠ t) :
    (r.keyFor t).1.get? u = r.get? u := by
  unfold keyFor
  split
  · rfl
  · simp [get?, List.find?_append, fresh, Ne.symm h]

@[simp] theorem type_keyFor (r : KeyRegistry) (t : EventType) : (r.keyFor t).2.type = t :=
  type_of_get? (get?_keyFor_self r t)

/-- The key that is made is the registry's key for its own type. -/
theorem get?_type_keyFor (r : KeyRegistry) (t : EventType) :
    (r.keyFor t).1.get? (r.keyFor t).2.type = some (r.keyFor t).2 := by
  rw [type_keyFor]
  exact get?_keyFor_self r t

theorem keyFor_of_get? {r : KeyRegistry} {t : EventType} {k : EventKey} (h : r.get? t = some k) :
    r.keyFor t = (r, k) := by
  rw [keyFor, h]

theorem mem_of_get? {r : KeyRegistry} {t : EventType} {k : EventKey} (h : r.get? t = some k) :
    k ∈ r.keys :=
  List.mem_of_find?_eq_some h

theorem get?_eq_none_iff {r : KeyRegistry} {t : EventType} :
    r.get? t = none ↔ t ∉ r.keys.map (·.type) := by
  simp [get?]

theorem keyFor_of_none {r : KeyRegistry} {t : EventType} (h : r.get? t = none) :
    r.keyFor t = (⟨r.keys ++ [r.fresh t], r.nextId + 1⟩, r.fresh t) := by
  rw [keyFor, h]

/-! ### Many types -/

theorem withKeys_cons (r : KeyRegistry) (t : EventType) (types : List EventType) :
    r.withKeys (t :: types) = (r.keyFor t).1.withKeys types := rfl

theorem withKeys_append (r : KeyRegistry) (types types' : List EventType) :
    r.withKeys (types ++ types') = (r.withKeys types).withKeys types' := List.foldl_append

/-! ### Keys stay -/

/-- What a registry has, a later one has in the same place, finds, and gives to whoever asks. -/
structure Stays (r r' : KeyRegistry) : Prop where
  keys : r.keys <+: r'.keys
  get? : ∀ t k, r.get? t = some k → r'.get? t = some k
  keyFor : ∀ t k, r.get? t = some k → r'.keyFor t = (r', k)

namespace Stays

theorem of_get? {r r' : KeyRegistry} (keys : r.keys <+: r'.keys)
    (get? : ∀ t k, r.get? t = some k → r'.get? t = some k) : r.Stays r' :=
  ⟨keys, get?, fun t k h => keyFor_of_get? (get? t k h)⟩

theorem refl (r : KeyRegistry) : r.Stays r := of_get? (List.prefix_refl _) fun _ _ h => h

theorem trans {r r' r'' : KeyRegistry} (h : r.Stays r') (h' : r'.Stays r'') : r.Stays r'' :=
  of_get? (h.keys.trans h'.keys) fun t k hk => h'.get? t k (h.get? t k hk)

end Stays

theorem stays_keyFor (r : KeyRegistry) (t : EventType) : r.Stays (r.keyFor t).1 := by
  refine .of_get? ?_ fun u k h => get?_keyFor_of_some h t
  cases h : r.get? t with
  | some k => rw [keyFor_of_get? h]
  | none =>
    rw [keyFor_of_none h]
    exact List.prefix_append ..

theorem stays_withKeys (r : KeyRegistry) (types : List EventType) :
    r.Stays (r.withKeys types) := by
  induction types generalizing r with
  | nil => exact .refl r
  | cons t types ih => exact (r.stays_keyFor t).trans (ih _)

/-! ### Which keys there are -/

/-- A registry has a key for each of the types that were asked for and for no other. The keys
stand in the order in which their types were first asked for, and that is their number. -/
structure Assigns (r : KeyRegistry) (asked : List EventType) : Prop where
  types : r.keys.map (·.type) = asked.eraseDups
  apart : (r.keys.map (·.type)).Nodup
  ids : r.keys.map (·.id) = List.range' 1 r.size
  next : r.nextId = r.size + 1

namespace Assigns

variable {r : KeyRegistry} {asked : List EventType}

theorem empty : KeyRegistry.empty.Assigns [] := ⟨rfl, .nil, rfl, rfl⟩

theorem exists_get?_iff (h : r.Assigns asked) {t : EventType} :
    (∃ k, r.get? t = some k) ↔ t ∈ asked := by
  rw [← Option.ne_none_iff_exists', ne_eq, get?_eq_none_iff, h.types, List.mem_eraseDups, not_not]

theorem keyFor (h : r.Assigns asked) (t : EventType) :
    (r.keyFor t).1.Assigns (asked ++ [t]) := by
  cases ht : r.get? t with
  | some k =>
    have hmem : t ∈ asked := h.exists_get?_iff.mp ⟨k, ht⟩
    rw [keyFor_of_get? ht]
    refine ⟨?_, h.apart, h.ids, h.next⟩
    rw [h.types, List.eraseDups_append]
    simp [List.removeAll, hmem]
  | none =>
    have hnew : t ∉ r.keys.map (·.type) := get?_eq_none_iff.mp ht
    have hmem : t ∉ asked := by rwa [h.types, List.mem_eraseDups] at hnew
    rw [keyFor_of_none ht]
    constructor
    case types =>
      rw [List.map_append, h.types, List.eraseDups_append]
      simp [List.removeAll, hmem, fresh, List.eraseDups_cons]
    case apart =>
      rw [List.map_append]
      exact h.apart.append (List.nodup_singleton _) (List.disjoint_singleton.mpr hnew)
    case ids => simp [size, fresh, h.ids, h.next, List.range'_concat, Nat.add_comm]
    case next => simp [size, h.next]

theorem withKeys (h : r.Assigns asked) (types : List EventType) :
    (r.withKeys types).Assigns (asked ++ types) := by
  induction types generalizing r asked with
  | nil => rwa [List.append_nil]
  | cons t types ih =>
    rw [withKeys_cons, List.append_cons]
    exact ih (h.keyFor t)

/-- There are as many keys as types were asked for. -/
theorem size_eq_card (h : r.Assigns asked) : r.size = asked.toFinset.card := by
  have htypes : (r.keys.map (·.type)).toFinset = asked.toFinset := by
    ext t
    rw [List.mem_toFinset, List.mem_toFinset, h.types, List.mem_eraseDups]
  rw [← htypes, List.toFinset_card_of_nodup h.apart, List.length_map, size]

/-- Neither two keys of one type nor two types of one number. -/
theorem eq_iff (h : r.Assigns asked) {t u : EventType} {k l : EventKey} (hk : r.get? t = some k)
    (hl : r.get? u = some l) : (k = l ↔ t = u) ∧ (k.id = l.id ↔ t = u) := by
  have hnumbers : (r.keys.map (·.id)).Nodup := h.ids ▸ List.nodup_range'
  have htype : k = l → t = u := by
    rintro rfl
    rw [← type_of_get? hk, ← type_of_get? hl]
  have hkey : t = u → k = l := by
    rintro rfl
    exact Option.some.inj (hk.symm.trans hl)
  have hid : k.id = l.id → k = l :=
    List.inj_on_of_nodup_map hnumbers (mem_of_get? hk) (mem_of_get? hl)
  exact ⟨⟨htype, hkey⟩, fun h => htype (hid h), fun h => congrArg (·.id) (hkey h)⟩

end Assigns

theorem assigns_ofTypes (types : List EventType) : (ofTypes types).Assigns types :=
  Assigns.empty.withKeys types

end KeyRegistry

end EventWiring
