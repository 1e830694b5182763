import EventWiring.Bus.Table
import EventWiring.Proofs.Event.Key
import Mathlib.Algebra.GroupWithZero.Nat

/-! The subscriber table read through its lists: what each operation does to the
list of every key, what it leaves tidy, and what a table shows for the types
whose keys a registry holds. -/
namespace EventWiring.SubscriberTable

variable {C : Type}

/-- The keys that have subscriptions. -/
def keys (t : SubscriberTable C) : List EventKey := t.entries.map (·.1)

/-- No key has two entries, and no entry is empty. -/
structure Tidy (t : SubscriberTable C) : Prop where
  nodup : t.keys.Nodup
  inhabited : ∀ e ∈ t.entries, e.2 ≠ []

/-! ### The list of a key -/

@[simp] theorem listFor_nil (k : EventKey) : (⟨[]⟩ : SubscriberTable C).listFor k = [] := rfl

@[simp] theorem listFor_cons (k' : EventKey) (subs : List (Subscription C))
    (rest : List (EventKey × List (Subscription C))) (k : EventKey) :
    listFor ⟨(k', subs) :: rest⟩ k = if k = k' then subs else listFor ⟨rest⟩ k := by
  by_cases h : k = k'
  · simp [listFor, h]
  · have hb : (k == k') = false := by simpa using h
    simp [listFor, List.lookup_cons, h, hb]

theorem listFor_of_not_mem {t : SubscriberTable C} {k : EventKey} (h : k ∉ t.keys) :
    t.listFor k = [] := by
  obtain ⟨es⟩ := t
  induction es with
  | nil => rfl
  | cons e rest ih =>
    simp only [keys, List.map_cons, List.mem_cons, not_or] at h
    rw [listFor_cons, if_neg h.1]
    exact ih h.2

theorem listFor_of_mem {t : SubscriberTable C} (h : t.keys.Nodup)
    {e : EventKey × List (Subscription C)} (he : e ∈ t.entries) : t.listFor e.1 = e.2 := by
  obtain ⟨es⟩ := t
  induction es with
  | nil => cases he
  | cons e' rest ih =>
    simp only [keys, List.map_cons, List.nodup_cons] at h
    rw [listFor_cons]
    rcases List.mem_cons.mp he with rfl | he
    · exact if_pos rfl
    · have hne : e.1 ≠ e'.1 := fun hk => h.1 (hk ▸ List.mem_map_of_mem he)
      rw [if_neg hne]
      exact ih h.2 he

theorem listFor_file (t : SubscriberTable C) (key : EventKey) (s : Subscription C)
    (k : EventKey) :
    (t.file key s).listFor k = if k = key then t.listFor k ++ [s] else t.listFor k := by
  obtain ⟨es⟩ := t
  induction es with
  | nil => simp [file, fileIn]
  | cons e rest ih =>
    obtain ⟨k', subs⟩ := e
    simp only [file, fileIn] at ih ⊢
    split
    · rename_i hk
      subst hk
      by_cases h : k = k' <;> simp [h]
    · rename_i hk
      by_cases h : k = k'
      · subst h
        simp [hk]
      · simp [h, ih]

theorem listFor_dropKey (t : SubscriberTable C) (key k : EventKey) :
    (t.dropKey key).listFor k = if k = key then [] else t.listFor k := by
  obtain ⟨es⟩ := t
  induction es with
  | nil => simp [dropKey]
  | cons e rest ih =>
    obtain ⟨k', subs⟩ := e
    by_cases hk : k' = key
    · subst hk
      rw [dropKey, List.filter_cons_of_neg (by simp)]
      refine ih.trans ?_
      by_cases h : k = k' <;> simp [h]
    · rw [dropKey, List.filter_cons_of_pos (by simpa using hk), listFor_cons, listFor_cons]
      by_cases h : k = k'
      · subst h
        simp [hk]
      · simp only [h, if_false]
        exact ih

/-- An entry that goes could uncover a second one of its key, so this needs the
keys to be distinct. -/
theorem listFor_remove {t : SubscriberTable C} (h : t.keys.Nodup) (key : EventKey) (id : Nat)
    (k : EventKey) :
    (t.remove key id).listFor k =
      if k = key then (t.listFor k).filter (·.id ≠ id) else t.listFor k := by
  obtain ⟨es⟩ := t
  induction es with
  | nil => simp [remove, removeIn]
  | cons e rest ih =>
    obtain ⟨k', subs⟩ := e
    simp only [keys, List.map_cons, List.nodup_cons] at h
    simp only [remove, removeIn] at ih ⊢
    by_cases hk : k' = key
    · subst hk
      have hrest : listFor ⟨rest⟩ k' = [] := listFor_of_not_mem h.1
      by_cases hkk : k = k'
      · subst hkk
        simp only [listFor_cons, if_true]
        split
        · rename_i hkept
          rw [hrest, List.isEmpty_iff.mp hkept]
        · simp
      · simp only [listFor_cons, hkk, if_true, if_false]
        split <;> simp [hkk]
    · by_cases hkk : k = k'
      · subst hkk
        simp [hk]
      · simp [hk, hkk, ih h.2]

/-! ### Keys -/

theorem mem_keys_file {t : SubscriberTable C} {key k : EventKey} {s : Subscription C} :
    k ∈ (t.file key s).keys ↔ k = key ∨ k ∈ t.keys := by
  obtain ⟨es⟩ := t
  induction es with
  | nil => simp [file, fileIn, keys]
  | cons e rest ih =>
    obtain ⟨k', subs⟩ := e
    simp only [file, fileIn, keys] at ih ⊢
    by_cases hk : k' = key
    · subst hk
      simp
    · simp only [hk, if_false, List.map_cons, List.mem_cons, ih]
      exact or_left_comm

theorem keys_remove_sublist (t : SubscriberTable C) (key : EventKey) (id : Nat) :
    (t.remove key id).keys.Sublist t.keys := by
  obtain ⟨es⟩ := t
  induction es with
  | nil => exact .slnil
  | cons e rest ih =>
    obtain ⟨k', subs⟩ := e
    simp only [remove, removeIn, keys] at ih ⊢
    split
    · split
      · exact .cons _ (.refl _)
      · exact .refl _
    · exact .cons_cons _ ih

theorem keys_dropKey_sublist (t : SubscriberTable C) (key : EventKey) :
    (t.dropKey key).keys.Sublist t.keys :=
  List.Sublist.map _ List.filter_sublist

/-! ### Tidiness -/

theorem Tidy.empty : (empty : SubscriberTable C).Tidy :=
  ⟨List.nodup_nil, fun _ h => absurd h List.not_mem_nil⟩

theorem Tidy.file {t : SubscriberTable C} (h : t.Tidy) (key : EventKey) (s : Subscription C) :
    (t.file key s).Tidy := by
  obtain ⟨es⟩ := t
  induction es with
  | nil =>
    constructor
    · simp [keys, SubscriberTable.file, fileIn]
    · simp [SubscriberTable.file, fileIn]
  | cons e rest ih =>
    obtain ⟨k', subs⟩ := e
    obtain ⟨hn, hi⟩ := h
    simp only [keys, List.map_cons, List.nodup_cons] at hn
    have hrest : (⟨rest⟩ : SubscriberTable C).Tidy := ⟨hn.2, fun e he => hi e (by simp [he])⟩
    by_cases hk : k' = key
    · subst hk
      refine ⟨by simpa [keys, SubscriberTable.file, fileIn] using hn, ?_⟩
      intro e he
      simp only [SubscriberTable.file, fileIn, if_true, List.mem_cons] at he
      rcases he with rfl | he
      · simp
      · exact hi e (by simp [he])
    · have hnot : k' ∉ (SubscriberTable.file ⟨rest⟩ key s).keys := by
        rw [mem_keys_file]
        rintro (rfl | hm)
        · exact hk rfl
        · exact hn.1 hm
      have := ih hrest
      refine ⟨?_, ?_⟩
      · simp only [keys, SubscriberTable.file, fileIn, hk, if_false, List.map_cons, List.nodup_cons]
        exact ⟨hnot, this.nodup⟩
      · intro e he
        simp only [SubscriberTable.file, fileIn, hk, if_false, List.mem_cons] at he
        rcases he with rfl | he
        · exact hi _ (by simp)
        · exact this.inhabited e he

theorem Tidy.dropKey {t : SubscriberTable C} (h : t.Tidy) (key : EventKey) :
    (t.dropKey key).Tidy :=
  ⟨h.nodup.sublist (keys_dropKey_sublist t key),
    fun e he => h.inhabited e (List.mem_filter.mp he).1⟩

theorem Tidy.remove {t : SubscriberTable C} (h : t.Tidy) (key : EventKey) (id : Nat) :
    (t.remove key id).Tidy := by
  refine ⟨h.nodup.sublist (keys_remove_sublist t key id), ?_⟩
  obtain ⟨es⟩ := t
  have hi := h.inhabited
  clear h
  induction es with
  | nil => exact fun e he => absurd he List.not_mem_nil
  | cons e rest ih =>
    obtain ⟨k', subs⟩ := e
    intro e he
    simp only [SubscriberTable.remove, removeIn] at he ih
    split at he
    · split at he
      · exact hi e (by simp [he])
      · rename_i hkept
        rcases List.mem_cons.mp he with rfl | he
        · simpa using hkept
        · exact hi e (by simp [he])
    · rcases List.mem_cons.mp he with rfl | he
      · exact hi _ (by simp)
      · exact ih (fun e he => hi e (by simp [he])) e he

/-! ### Counting -/

/-- A table holds as many subscriptions as its lists together. -/
theorem total_eq_sum {t : SubscriberTable C} (h : t.keys.Nodup) :
    t.total = (t.keys.map fun k => (t.listFor k).length).sum := by
  obtain ⟨es⟩ := t
  induction es with
  | nil => rfl
  | cons e rest ih =>
    obtain ⟨k', subs⟩ := e
    simp only [keys, List.map_cons, List.nodup_cons] at h
    have hsame : (keys ⟨rest⟩).map (fun k => (listFor ⟨(k', subs) :: rest⟩ k).length) =
        (keys (⟨rest⟩ : SubscriberTable C)).map fun k => (listFor ⟨rest⟩ k).length := by
      refine List.map_congr_left fun k hk => ?_
      have hne : k ≠ k' := fun he => h.1 (he ▸ hk)
      simp [hne]
    have := ih h.2
    simp only [total, all, List.flatMap_cons, List.length_append, keys, List.map_cons,
      List.sum_cons, listFor_cons, if_true] at this hsame ⊢
    rw [hsame, this]

/-! ### What a table shows -/

/-- A table files under the registry's keys only, and shows for each type that
has a key a given list of subscriptions. -/
structure Shows (r : KeyRegistry) (t : SubscriberTable C)
    (lists : EventType → List (Subscription C)) : Prop where
  tidy : t.Tidy
  registered : ∀ k ∈ t.keys, r.get? k.type = some k
  list : ∀ k, r.get? k.type = some k → t.listFor k = lists k.type

/-- A table read as a map of types: the subscriptions of each type that has an
entry, in order. -/
def listed? (t : SubscriberTable C) (u : EventType) : Option (List (Subscription C)) :=
  (t.entries.find? fun e => e.1.type = u).map (·.2)

/-- A table read as a map of types: the callbacks of each type that has an entry,
in order. -/
def byType (t : SubscriberTable C) (u : EventType) : Option (List C) :=
  (t.entries.find? fun e => e.1.type = u).map fun e => e.2.map (·.callback)

namespace Shows

variable {r : KeyRegistry} {t : SubscriberTable C} {lists : EventType → List (Subscription C)}

theorem listFor (h : t.Shows r lists) {u : EventType} {k : EventKey} (hk : r.get? u = some k) :
    t.listFor k = lists u := by
  have hu := KeyRegistry.type_of_get? hk
  subst hu
  exact h.list k hk

theorem congr (h : t.Shows r lists) {lists' : EventType → List (Subscription C)}
    (he : ∀ u, lists u = lists' u) : t.Shows r lists' :=
  ⟨h.tidy, h.registered, fun k hk => (h.list k hk).trans (he k.type)⟩

theorem empty : (empty : SubscriberTable C).Shows r fun _ => [] :=
  ⟨Tidy.empty, fun _ hk => absurd hk List.not_mem_nil, fun _ _ => rfl⟩

/-- A type has an entry exactly if something is shown for it. -/
theorem listed? (h : t.Shows r lists) (hnone : ∀ u, r.get? u = none → lists u = [])
    (u : EventType) : t.listed? u = if lists u = [] then none else some (lists u) := by
  unfold SubscriberTable.listed?
  cases hfind : t.entries.find? fun e => e.1.type = u with
  | some e =>
    have hmem : e ∈ t.entries := List.mem_of_find?_eq_some hfind
    have htype : e.1.type = u := by simpa using List.find?_some hfind
    have hlist : lists u = e.2 := by
      have hkey := h.registered e.1 (List.mem_map_of_mem hmem)
      rw [← htype, ← h.list e.1 hkey, listFor_of_mem h.tidy.nodup hmem]
    rw [hlist, if_neg (h.tidy.inhabited e hmem)]
    rfl
  | none =>
    have hlist : lists u = [] := by
      cases hk : r.get? u with
      | none => exact hnone u hk
      | some k =>
        -- the key of the type is not among those that have an entry
        rw [← h.listFor hk]
        apply listFor_of_not_mem
        intro hmem
        obtain ⟨e, he, rfl⟩ := List.mem_map.mp hmem
        have hother := List.find?_eq_none.mp hfind e he
        exact hother (decide_eq_true (KeyRegistry.type_of_get? hk))
    rw [if_pos hlist]
    rfl

theorem byType (h : t.Shows r lists) (hnone : ∀ u, r.get? u = none → lists u = [])
    (u : EventType) :
    t.byType u = if lists u = [] then none else some ((lists u).map (·.callback)) := by
  have hentry : t.byType u = (t.listed? u).map fun subs => subs.map (·.callback) := by
    simp only [SubscriberTable.byType, SubscriberTable.listed?, Option.map_map]
    rfl
  rw [hentry, h.listed? hnone u]
  split <;> rfl

/-- A key that is made for a type without subscriptions finds none. -/
theorem keyFor (h : t.Shows r lists) (u : EventType) (hu : r.get? u = none → lists u = []) :
    t.Shows (r.keyFor u).1 lists := by
  refine ⟨h.tidy, fun k hk => KeyRegistry.get?_keyFor_of_some (h.registered k hk) u, ?_⟩
  intro k hk
  cases hold : r.get? k.type with
  | some k₀ =>
    have he : k₀ = k :=
      Option.some.inj ((KeyRegistry.get?_keyFor_of_some hold u).symm.trans hk)
    exact h.list k (he ▸ hold)
  | none =>
    have hku : k.type = u := by
      by_cases hne : k.type = u
      · exact hne
      · rw [KeyRegistry.get?_keyFor_ne r hne, hold] at hk
        cases hk
    have hkeys : k ∉ t.keys := by
      intro hm
      rw [h.registered k hm] at hold
      cases hold
    rw [listFor_of_not_mem hkeys, hku, hu (hku ▸ hold)]

/-- Two registered keys of one type are one key. -/
theorem eq_of_type {k key : EventKey} (hk : r.get? k.type = some k)
    (hkey : r.get? key.type = some key) : k = key ↔ k.type = key.type := by
  refine ⟨congrArg _, fun he => ?_⟩
  rw [he, hkey] at hk
  exact (Option.some.inj hk).symm

theorem file (h : t.Shows r lists) {key : EventKey} (hkey : r.get? key.type = some key)
    (s : Subscription C) :
    (t.file key s).Shows r fun u => if u = key.type then lists u ++ [s] else lists u := by
  refine ⟨h.tidy.file key s, ?_, ?_⟩
  · intro k hk
    rcases mem_keys_file.mp hk with rfl | hk
    · exact hkey
    · exact h.registered k hk
  · intro k hk
    rw [listFor_file, h.list k hk]
    simp only [eq_of_type hk hkey]

theorem remove (h : t.Shows r lists) {key : EventKey} (hkey : r.get? key.type = some key)
    (id : Nat) :
    (t.remove key id).Shows r fun u =>
      if u = key.type then (lists u).filter (·.id ≠ id) else lists u := by
  refine ⟨h.tidy.remove key id, ?_, ?_⟩
  · exact fun k hk => h.registered k ((keys_remove_sublist t key id).subset hk)
  · intro k hk
    rw [listFor_remove h.tidy.nodup, h.list k hk]
    simp only [eq_of_type hk hkey]

theorem dropKey (h : t.Shows r lists) {key : EventKey} (hkey : r.get? key.type = some key) :
    (t.dropKey key).Shows r fun u => if u = key.type then [] else lists u := by
  refine ⟨h.tidy.dropKey key, ?_, ?_⟩
  · exact fun k hk => h.registered k ((keys_dropKey_sublist t key).subset hk)
  · intro k hk
    rw [listFor_dropKey, h.list k hk]
    simp only [eq_of_type hk hkey]

end Shows

end EventWiring.SubscriberTable
