import EventWiring.Handler.Catalog
import Mathlib.Data.Finset.Card
import Mathlib.Data.Finset.Dedup

/-! What a catalog finds under a name. Every type is filed under its full name and, the
first time, under its bare name too. So a name finds the same in whatever order the
types were added, and however often. -/
namespace EventWiring

/-! ### Directories -/

namespace Directory

variable {V : Type}

theorem find?_put (d : Directory V) (name : String) (v : V) (asked : String) :
    (d.put name v).find? asked = if asked = name then some v else d.find? asked := by
  obtain ⟨entries⟩ := d
  show (putIn name v entries).lookup asked = if asked = name then some v else entries.lookup asked
  induction entries with
  | nil => exact lookup_cons_eq ..
  | cons e rest ih =>
    obtain ⟨n, w⟩ := e
    rw [putIn, lookup_cons_eq]
    by_cases hn : n = name
    · rw [if_pos hn, lookup_cons_eq, hn]
      by_cases ha : asked = name <;> simp [ha]
    · rw [if_neg hn, lookup_cons_eq, ih]
      by_cases ha : asked = n
      · simp [ha, hn]
      · simp [ha]

theorem size_put (d : Directory V) (name : String) (v : V) :
    (d.put name v).size = if (d.find? name).isSome then d.size else d.size + 1 := by
  obtain ⟨entries⟩ := d
  show (putIn name v entries).length =
    if (entries.lookup name).isSome then entries.length else entries.length + 1
  induction entries with
  | nil => rfl
  | cons e rest ih =>
    obtain ⟨n, w⟩ := e
    rw [putIn, lookup_cons_eq]
    by_cases hn : n = name
    · simp [hn]
    · rw [if_neg hn, if_neg (Ne.symm hn), List.length_cons, ih]
      split <;> rfl

end Directory

namespace EventCatalog

/-! ### What is filed -/

/-- A catalog has some types on file: each under its full name, and once under its bare
name. -/
structure Files (c : EventCatalog) (types : List EventType) : Prop where
  byName : ∀ name t, c.byName.find? name = some t ↔ t ∈ types ∧ t.name = name
  bareNamed : ∀ name t, t ∈ c.bareNamed name ↔ t ∈ types ∧ t.shortName = name
  once : ∀ name, (c.bareNamed name).Nodup
  size : c.size = types.toFinset.card

/-- No two of some types have one full name. -/
def NamedApart (types : List EventType) : Prop :=
  ∀ t ∈ types, ∀ u ∈ types, t.name = u.name → t = u

theorem NamedApart.mono {types types' : List EventType} (h : NamedApart types)
    (sub : ∀ t ∈ types', t ∈ types) : NamedApart types' :=
  fun t ht u hu => h t (sub t ht) u (sub u hu)

theorem mem_cons_named {f : EventType → String} {t u : EventType} {types : List EventType}
    {name : String} :
    u ∈ t :: types ∧ f u = name ↔ u = t ∧ f t = name ∨ u ∈ types ∧ f u = name := by
  rw [List.mem_cons, or_and_right]
  refine or_congr_left (and_congr_right ?_)
  rintro rfl
  rfl

theorem files_empty : empty.Files [] := by
  constructor
  · simp [empty, Directory.empty, Directory.find?]
  · simp [empty, bareNamed, Directory.empty, Directory.find?]
  · simp [empty, bareNamed, Directory.empty, Directory.find?]
  · rfl

theorem bareNamed_file (c : EventCatalog) (byName : Directory EventType) (bare : String)
    (ts : List EventType) (name : String) :
    bareNamed ⟨byName, c.byBareName.put bare ts⟩ name =
      if name = bare then ts else c.bareNamed name := by
  rw [bareNamed, Directory.find?_put]
  split <;> rfl

namespace Files

variable {c : EventCatalog} {types : List EventType} {t : EventType}

theorem congr (h : c.Files types) {types' : List EventType} (same : ∀ t, t ∈ types ↔ t ∈ types') :
    c.Files types' := by
  have hset : types.toFinset = types'.toFinset := by
    ext t
    rw [List.mem_toFinset, List.mem_toFinset, same]
  constructor
  · intro name t
    rw [h.byName, same]
  · intro name t
    rw [h.bareNamed, same]
  · exact h.once
  · rw [h.size, hset]

theorem find?_eq_none (h : c.Files types) {name : String} :
    c.byName.find? name = none ↔ ∀ t ∈ types, t.name ≠ name := by
  rw [Option.eq_none_iff_forall_ne_some]
  simp only [ne_eq, h.byName, not_and]

/-- A type that is on file already changes nothing. -/
theorem insert_known (h : c.Files types) (ht : t ∈ types) :
    (c.insert t).Files types := by
  have hfound : c.byName.find? t.name = some t := (h.byName ..).mpr ⟨ht, rfl⟩
  have hinsert : c.insert t = { c with byName := c.byName.put t.name t } := by
    rw [insert, hfound]
    rfl
  rw [hinsert]
  constructor
  · intro name u
    rw [Directory.find?_put]
    split
    · rename_i hname
      rw [← h.byName, hname, hfound]
    · exact h.byName name u
  · exact h.bareNamed
  · exact h.once
  · show (c.byName.put t.name t).size = _
    rw [Directory.size_put, hfound]
    exact h.size

/-- A type whose full name is not on file is filed under it and under its bare name. -/
theorem insert_new (h : c.Files types) (fresh : ∀ u ∈ types, u.name ≠ t.name) :
    (c.insert t).Files (t :: types) := by
  have hfound : c.byName.find? t.name = none := h.find?_eq_none.mpr fresh
  have hinsert : c.insert t = ⟨c.byName.put t.name t,
      c.byBareName.put t.shortName (c.bareNamed t.shortName ++ [t])⟩ := by
    rw [insert, hfound]
    rfl
  have hnew : t ∉ types := fun ht => fresh t ht rfl
  rw [hinsert]
  constructor
  · intro name u
    rw [Directory.find?_put, mem_cons_named]
    by_cases hname : name = t.name
    · have hnone : ¬(u ∈ types ∧ u.name = name) := fun hu => fresh u hu.1 (hu.2.trans hname)
      rw [if_pos hname, or_iff_left hnone, hname]
      simp [eq_comm]
    · simp [hname, Ne.symm hname, h.byName]
  · intro name u
    rw [bareNamed_file, mem_cons_named]
    by_cases hname : name = t.shortName
    · simp [hname, h.bareNamed, or_comm]
    · simp [hname, Ne.symm hname, h.bareNamed]
  · intro name
    rw [bareNamed_file]
    split
    · refine List.nodup_append.mpr ⟨h.once _, List.nodup_singleton t, ?_⟩
      intro u hu t' ht'
      rw [List.mem_singleton.mp ht']
      rintro rfl
      exact hnew ((h.bareNamed ..).mp hu).1
    · exact h.once name
  · show (c.byName.put t.name t).size = _
    rw [Directory.size_put, hfound, List.toFinset_cons,
      Finset.card_insert_of_notMem (by rwa [List.mem_toFinset])]
    exact congrArg (· + 1) h.size

theorem insert (h : c.Files types) (apart : NamedApart (t :: types)) :
    (c.insert t).Files (t :: types) := by
  by_cases ht : t ∈ types
  · refine (h.insert_known ht).congr fun u => ⟨List.mem_cons_of_mem t, ?_⟩
    rintro (_ | ⟨_, hu⟩)
    · exact ht
    · exact hu
  · refine h.insert_new fun u hu hname => ht ?_
    rw [← apart u (List.mem_cons_of_mem t hu) t List.mem_cons_self hname]
    exact hu

/-- Types are on file after they were added one by one. -/
theorem insertAll (h : c.Files types) {more : List EventType}
    (apart : NamedApart (more ++ types)) :
    (more.foldl EventCatalog.insert c).Files (more ++ types) := by
  induction more generalizing c types with
  | nil => exact h
  | cons t rest ih =>
    have hmoved : ∀ u, u ∈ rest ++ t :: types ↔ u ∈ t :: rest ++ types := by
      intro u
      simp only [List.mem_append, List.mem_cons, or_assoc, or_left_comm]
    have hcons : ∀ u ∈ t :: types, u ∈ t :: rest ++ types := by
      intro u hu
      exact (hmoved u).mp (List.mem_append_right rest hu)
    have hnext := h.insert (apart.mono hcons)
    exact (ih hnext (apart.mono fun u hu => (hmoved u).mp hu)).congr hmoved

theorem ofTypes (apart : NamedApart types) : (ofTypes types).Files types := by
  have hall : NamedApart (types ++ []) := by rwa [List.append_nil]
  have h := files_empty.insertAll hall
  rwa [List.append_nil] at h

end Files

/-! ### What is found -/

/-- The answer that a name gets, by what the types are called: the type with that full
name, and if there is none, the type with that bare name, provided there is one such
type and no other. -/
inductive Finds (types : List EventType) (name : String) :
    Except LookupFailure EventType → Prop where
  | fullName {t : EventType} (mem : t ∈ types) (called : t.name = name) : Finds types name (.ok t)
  | bareName {t : EventType} (free : ∀ u ∈ types, u.name ≠ name)
    (only : ∀ u, u ∈ types ∧ u.shortName = name ↔ u = t) : Finds types name (.ok t)
  | several {t u : EventType} (free : ∀ u ∈ types, u.name ≠ name)
    (first : t ∈ types ∧ t.shortName = name) (second : u ∈ types ∧ u.shortName = name)
    (different : t ≠ u) : Finds types name (.error .ambiguous)
  | nothing (free : ∀ u ∈ types, u.name ≠ name) (none : ∀ u ∈ types, u.shortName ≠ name) :
    Finds types name (.error .notFound)

namespace Files

variable {c : EventCatalog} {types : List EventType}

theorem lookup_of_free (h : c.Files types) {name : String} (free : ∀ u ∈ types, u.name ≠ name) :
    c.lookup name =
      match c.bareNamed name with
      | [] => .error .notFound
      | [t] => .ok t
      | _ :: _ :: _ => .error .ambiguous := by
  have hnone : c.byName.find? name = none := h.find?_eq_none.mpr free
  unfold lookup
  generalize c.byName.find? name = found at hnone ⊢
  subst hnone
  rfl

theorem finds_lookup (h : c.Files types) (name : String) : Finds types name (c.lookup name) := by
  cases hfound : c.byName.find? name with
  | some t =>
    obtain ⟨ht, hname⟩ := (h.byName ..).mp hfound
    rw [lookup, hfound]
    exact .fullName ht hname
  | none =>
    have hfree := h.find?_eq_none.mp hfound
    have hbare := h.bareNamed name
    have honce := h.once name
    rw [h.lookup_of_free hfree]
    cases hfiled : c.bareNamed name with
    | nil =>
      rw [hfiled] at hbare
      exact .nothing hfree fun u hu hname => List.not_mem_nil ((hbare u).mpr ⟨hu, hname⟩)
    | cons t rest =>
      rw [hfiled] at hbare honce
      cases rest with
      | nil => exact .bareName hfree fun u => (hbare u).symm.trans List.mem_singleton
      | cons u rest =>
        refine .several hfree ((hbare t).mp List.mem_cons_self)
          ((hbare u).mp (List.mem_cons_of_mem t List.mem_cons_self)) ?_
        rintro rfl
        exact (List.nodup_cons.mp honce).1 List.mem_cons_self

theorem lookup_of_finds (h : c.Files types) {name : String} {r : Except LookupFailure EventType}
    (finds : Finds types name r) : c.lookup name = r := by
  cases finds with
  | fullName mem called => rw [lookup, (h.byName ..).mpr ⟨mem, called⟩]
  | @bareName t free only =>
    have hfiled : c.bareNamed name = [t] := by
      refine List.perm_singleton.mp ?_
      rw [List.perm_ext_iff_of_nodup (h.once name) (List.nodup_singleton t)]
      intro u
      rw [h.bareNamed, only, List.mem_singleton]
    rw [h.lookup_of_free free, hfiled]
  | @several t u free first second different =>
    rw [h.lookup_of_free free]
    have ht := (h.bareNamed ..).mpr first
    have hu := (h.bareNamed ..).mpr second
    match hfiled : c.bareNamed name with
    | [] =>
      rw [hfiled] at ht
      cases ht
    | [v] =>
      rw [hfiled] at ht hu
      exact absurd ((List.mem_singleton.mp ht).trans (List.mem_singleton.mp hu).symm) different
    | _ :: _ :: _ => rfl
  | nothing free none =>
    have hfiled : c.bareNamed name = [] := by
      refine List.eq_nil_iff_forall_not_mem.mpr fun u hu => ?_
      obtain ⟨hu, hname⟩ := (h.bareNamed ..).mp hu
      exact none u hu hname
    rw [h.lookup_of_free free, hfiled]

theorem lookup_eq_iff (h : c.Files types) {name : String} {r : Except LookupFailure EventType} :
    c.lookup name = r ↔ Finds types name r :=
  ⟨fun hr => hr ▸ h.finds_lookup name, h.lookup_of_finds⟩

/-- Catalogs that have the same types on file find the same. -/
theorem lookup_congr (h : c.Files types) {c' : EventCatalog} (h' : c'.Files types) (name : String) :
    c'.lookup name = c.lookup name :=
  h'.lookup_of_finds (h.finds_lookup name)

end Files

/-- Of types that were added one by one, no two with one full name, a name finds what
they are called by: the full name counts first, and a bare name if one type has it and
no other. There are as many entries as different types. What was added, and not when or
how often, decides, so to add a type again changes no answer. -/
theorem lookup_ofTypes_iff_finds (types : List EventType) (apart : NamedApart types) :
    (∀ name r, (ofTypes types).lookup name = r ↔ Finds types name r) ∧
    (ofTypes types).size = types.toFinset.card ∧
    (∀ types' : List EventType, (∀ t, t ∈ types' ↔ t ∈ types) →
      (∀ name, (ofTypes types').lookup name = (ofTypes types).lookup name) ∧
        (ofTypes types').size = (ofTypes types).size) ∧
    ∀ t ∈ types, ∀ name,
      ((ofTypes types).insert t).lookup name = (ofTypes types).lookup name := by
  have hfiles : (ofTypes types).Files types := .ofTypes apart
  refine ⟨fun _ _ => hfiles.lookup_eq_iff, hfiles.size, ?_, ?_⟩
  · intro types' hsame
    have hfiles' : (ofTypes types').Files types :=
      (Files.ofTypes (apart.mono fun t ht => (hsame t).mp ht)).congr hsame
    exact ⟨hfiles.lookup_congr hfiles', hfiles'.size.trans hfiles.size.symm⟩
  · intro t ht
    exact hfiles.lookup_congr (hfiles.insert_known ht)

/-- Two types share a bare name, and one of them was added twice. A third is found by
its bare name, without its arguments. -/
theorem lookup_ofTypes_iff_finds_of_shared :
    let first : EventType := .concrete ⟨1, "alpha::First"⟩
    let other : EventType := .concrete ⟨2, "beta::First"⟩
    let only : EventType := .concrete ⟨3, "beta::Only<u8>"⟩
    let types := [first, only, other, first]
    (ofTypes types).lookup "First" = .error .ambiguous ∧
      (ofTypes types).lookup "alpha::First" = .ok first ∧
      (ofTypes types).lookup "Only" = .ok only ∧
      (ofTypes types).lookup "beta::Only" = .error .notFound ∧ (ofTypes types).size = 3 ∧
      ((ofTypes types).insert first).lookup "Only" = .ok only ∧
      (ofTypes [only, first, other]).lookup "First" = .error .ambiguous := by
  intro first other only types
  have apart : NamedApart types := by
    unfold NamedApart
    decide
  have hfree : ∀ name ∈ ["First", "Only", "beta::Only"], ∀ t ∈ types, t.name ≠ name := by decide
  have hseveral : Finds types "First" (.error .ambiguous) :=
    .several (hfree _ (by decide)) (t := first) (u := other) (by decide) (by decide) (by decide)
  have honly : Finds types "Only" (.ok only) := by
    refine .bareName (hfree _ (by decide)) fun u => ⟨?_, ?_⟩
    · rintro ⟨hu, hname⟩
      have hothers : ∀ t ∈ types, t.shortName = "Only" → t = only := by decide
      exact hothers u hu hname
    · rintro rfl
      decide
  obtain ⟨hlookup, hsize, hsame, hagain⟩ := lookup_ofTypes_iff_finds types apart
  have hfirst := (hlookup ..).mpr hseveral
  have hbare := (hlookup ..).mpr honly
  have hsub : ∀ t ∈ [only, first, other], t ∈ types := by decide
  have hsub' : ∀ t ∈ types, t ∈ [only, first, other] := by decide
  obtain ⟨hmoved, -⟩ := hsame [only, first, other] fun t => ⟨hsub t, hsub' t⟩
  refine ⟨hfirst, (hlookup ..).mpr (.fullName (t := first) (by decide) rfl), hbare,
    (hlookup ..).mpr (.nothing (hfree _ (by decide)) (by decide)), ?_, ?_, ?_⟩
  · rw [hsize]
    decide
  · exact (hagain first List.mem_cons_self "Only").trans hbare
  · exact (hmoved "First").trans hfirst

end EventCatalog

end EventWiring
