import EventWiring.Proofs.Event.PathName
import EventWiring.Proofs.Handler.Naming

/-! Bare names in a catalog. A type is filed under the bare name that is cut out of its full
name. It is found under the last word of its path exactly if the cut is made there. -/
namespace EventWiring

namespace EventCatalog

/-! ### Filed under bare names -/

/-- Every full name on file has a type filed under its bare name. -/
def FilesBareNames (c : EventCatalog) : Prop :=
  ∀ name, (c.byName.find? name).isSome = true → c.bareNamed (EventType.bareName name) ≠ []

theorem filesBareNames_empty : empty.FilesBareNames := by
  intro name h
  cases h

theorem FilesBareNames.insert {c : EventCatalog} (h : c.FilesBareNames) (t : EventType) :
    (c.insert t).FilesBareNames := by
  intro name hname
  unfold EventCatalog.insert at hname ⊢
  split
  · rename_i hknown
    rw [if_pos hknown, Directory.find?_put] at hname
    by_cases heq : name = t.name
    · exact h name (heq ▸ hknown)
    · rw [if_neg heq] at hname
      exact h name hname
  · rename_i hnew
    rw [if_neg hnew, Directory.find?_put] at hname
    rw [bareNamed_file]
    by_cases hbare : EventType.bareName name = t.shortName
    · rw [if_pos hbare]
      simp
    · rw [if_neg hbare]
      have heq : name ≠ t.name := fun heq => hbare (heq ▸ rfl)
      rw [if_neg heq] at hname
      exact h name hname

theorem isSome_find?_insert (c : EventCatalog) (t : EventType) (name : String) :
    ((c.insert t).byName.find? name).isSome = true ↔
      name = t.name ∨ (c.byName.find? name).isSome = true := by
  have hput : (c.insert t).byName = c.byName.put t.name t := by
    unfold EventCatalog.insert
    split <;> rfl
  rw [hput, Directory.find?_put]
  by_cases heq : name = t.name <;> simp [heq]

theorem filesBareNames_insertAll {c : EventCatalog} (h : c.FilesBareNames)
    (types : List EventType) :
    (types.foldl EventCatalog.insert c).FilesBareNames ∧
      ∀ name, (∃ t ∈ types, t.name = name) ∨ (c.byName.find? name).isSome = true →
        ((types.foldl EventCatalog.insert c).byName.find? name).isSome = true := by
  induction types generalizing c with
  | nil => exact ⟨h, fun name hname => hname.elim (fun ⟨_, ht, _⟩ => nomatch ht) id⟩
  | cons t types ih =>
    obtain ⟨hfiles, hfound⟩ := ih (h.insert t)
    refine ⟨hfiles, ?_⟩
    rintro name (⟨u, hu, hname⟩ | hname)
    · rcases List.mem_cons.mp hu with rfl | hu
      · exact hfound name (.inr ((isSome_find?_insert ..).mpr (.inl hname.symm)))
      · exact hfound name (.inl ⟨u, hu, hname⟩)
    · exact hfound name (.inr ((isSome_find?_insert ..).mpr (.inr hname)))

/-- A type that was added is filed under its bare name, or one of its full name is. -/
theorem bareNamed_ofTypes_ne_nil {types : List EventType} {t : EventType} (ht : t ∈ types) :
    (ofTypes types).bareNamed t.shortName ≠ [] := by
  obtain ⟨hfiles, hfound⟩ := filesBareNames_insertAll filesBareNames_empty types
  exact hfiles t.name (hfound t.name (.inl ⟨t, ht, rfl⟩))

theorem lookup_ne_notFound {c : EventCatalog} {name : String} (h : c.bareNamed name ≠ []) :
    c.lookup name ≠ .error .notFound := by
  unfold lookup
  split
  · simp
  · split
    · contradiction
    · simp
    · simp

/-! ### Found by the last word -/

/-- A name that is found among types that are told apart by their full names. -/
theorem lookup_shortName {types : List EventType} (apart : NamedApart types) {t : EventType}
    (ht : t ∈ types) :
    (ofTypes types).lookup t.shortName = .error .ambiguous ∨
      ∃ u, (ofTypes types).lookup t.shortName = .ok u ∧ (u = t ∨ u.name = t.shortName) := by
  have hfinds := (Files.ofTypes apart).finds_lookup t.shortName
  generalize (ofTypes types).lookup t.shortName = found at hfinds
  cases hfinds with
  | fullName hu hname => exact .inr ⟨_, rfl, .inr hname⟩
  | bareName _ only => exact .inr ⟨_, rfl, .inl ((only t).mp ⟨ht, rfl⟩).symm⟩
  | several => exact .inl rfl
  | nothing _ none => exact absurd rfl (none t ht)

theorem lookup_of_other_shortName {t : EventType} {name : String} (hname : t.name ≠ name)
    (hshort : t.shortName ≠ name) : (ofTypes [t]).lookup name = .error .notFound := by
  have apart : NamedApart [t] := by
    intro u hu v hv _
    rw [List.mem_singleton.mp hu, List.mem_singleton.mp hv]
  apply (Files.ofTypes apart).lookup_of_finds
  apply Finds.nothing <;> simpa

end EventCatalog

open EventCatalog

namespace PathName

/-- The event type that a path names. -/
def eventType (p : PathName) (id : Nat) : EventType := .concrete ⟨id, p.text⟩

/-- The bare name of a type that a path names is what is cut out of the path: nothing behind a
qualifying type, else the word in front of the first arguments. The last word finds the type in
every catalog that it was added to exactly if the cut is made there, as it is where no other
word has arguments. -/
theorem lookup_lastWord (p : PathName) (id : Nat) :
    (p.eventType id).shortName = p.cutText ∧
    (p.ArgsAtEnd → p.cutText = p.lastWord.text) ∧
    (p.cutText = p.lastWord.text ↔ ∀ types : List EventType, p.eventType id ∈ types →
      (ofTypes types).lookup p.lastWord.text ≠ .error .notFound) ∧
    (p.cutText = p.lastWord.text → ∀ types : List EventType, NamedApart types →
      p.eventType id ∈ types →
        (ofTypes types).lookup p.lastWord.text = .error .ambiguous ∨
          ∃ u, (ofTypes types).lookup p.lastWord.text = .ok u ∧
            (u = p.eventType id ∨ u.name = p.lastWord.text)) ∧
    (p.cutText ≠ p.lastWord.text →
      (ofTypes [p.eventType id]).lookup p.lastWord.text = .error .notFound) := by
  have hshort : (p.eventType id).shortName = p.cutText := p.bareName_text
  have hlost (h : p.cutText ≠ p.lastWord.text) :
      (ofTypes [p.eventType id]).lookup p.lastWord.text = .error .notFound :=
    lookup_of_other_shortName (text_ne_lastWord h) (hshort ▸ h)
  refine ⟨hshort, ArgsAtEnd.cutText, ⟨?_, ?_⟩, ?_, hlost⟩
  · intro h types ht
    rw [← h, ← hshort]
    exact lookup_ne_notFound (bareNamed_ofTypes_ne_nil ht)
  · intro h
    by_contra hcut
    exact h [p.eventType id] List.mem_cons_self (hlost hcut)
  · intro h types apart ht
    rw [← h, ← hshort]
    exact lookup_shortName apart ht

/-- A type that is declared inside a function of a trait. -/
theorem lookup_notFound_of_qualified :
    let driver : PathWord := ⟨"driver", by decide, by decide, by decide⟩
    let zoo : PathWord := ⟨"zoo", by decide, by decide, by decide⟩
    let inZoo (w : PathWord) : PathName := .plain (.mk driver []) [.mk zoo [], .mk w []]
    let owner := inZoo ⟨"Owner", by decide, by decide, by decide⟩
    let carrier := inZoo ⟨"Carrier", by decide, by decide, by decide⟩
    let p : PathName := .qualified (.path owner) (some carrier)
      (.mk ⟨"carry", by decide, by decide, by decide⟩ [])
      [.mk ⟨"Local", by decide, by decide, by decide⟩ []]
    p.text = "<driver::zoo::Owner as driver::zoo::Carrier>::carry::Local" ∧
      p.lastWord.text = "Local" ∧ (p.eventType 10).shortName = "" ∧
      (ofTypes [p.eventType 10]).lookup "Local" = .error .notFound := by
  intro driver zoo inZoo owner carrier p
  refine ⟨by decide, rfl, by decide, by decide⟩

end PathName

end EventWiring
