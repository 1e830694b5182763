import EventWiring.Proofs.Declaration.Mentions
import EventWiring.Proofs.Declaration.Unmarking

/-! Parameters whose type has no name. The code of a declaration writes the type of the
parameter between angle brackets, where a type without a name cannot stand. A method whose
parameter shows such a type is not declared. One that hides it is. -/
namespace EventWiring

open Source

namespace Declaration

variable {m : Method} {param : Param}

/-- The type that the code of a declaration writes between angle brackets: for a handler what
its event is, else the parameter's whole type. -/
def writtenType? (d : Declaration) : Option Ty :=
  match d.shape with
  | .alone => none
  | .event lifetime elem => some (if d.isHandler then elem else .reference lifetime false elem)

theorem code_of_writtenType? {d : Declaration} {t : Ty} (h : d.writtenType? = some t) :
    ∃ lead, d.code =
      if d.isHandler then lead ++ (BuilderCall.handlesEvent t).tokens d.name
      else [.group .brace (lead ++ (BuilderCall.paramOpaque t).tokens d.name)] := by
  obtain ⟨name, _ | ⟨lifetime, elem⟩, _ | handles⟩ := d
  · cases h
  · cases h
  · cases h
    rw [← paramOpaque_eq]
    exact ⟨_, rfl⟩
  · cases h
    rw [← handlesEvent_eq]
    exact ⟨_, rfl⟩

/-! ### Shown -/

theorem hidingShape?_of_shows (hparams : m.params = [param])
    (hshows : param.type.showsImplTrait = true) : hidingShape? m = none := by
  rw [hidingShape?, hparams]
  exact Shape.ofType?_of_showsImplTrait hshows

theorem ofUnmarked?_of_shows (hparams : m.params = [param])
    (hshows : param.type.showsImplTrait = true) : ofUnmarked? m = none := by
  rw [ofUnmarked?, hidingShape?_of_shows hparams hshows]
  split <;> rfl

/-- A handler that is fit but for its parameter is rejected for that. -/
theorem ofHandler_of_shows (hparams : m.params = [param])
    (hshows : param.type.showsImplTrait = true) (options : HandlerOptions) :
    ∃ problem, ofHandler m options = .error problem ∧
      (m.isGeneric = false → m.signature.isAsync = false → m.sharesTarget = true →
        problem = .unnamedType m.name) := by
  have hshape : handlerShape m options = .error (.unnamedType m.name) := by
    rw [handlerShape, hparams]
    exact if_pos hshows
  unfold ofHandler
  cases m.isGeneric <;> cases m.signature.isAsync <;> cases m.sharesTarget <;>
    simp [hshape, bind, Except.bind, throw, throwThe, MonadExceptOf.throw]

/-! ### Declared -/

theorem not_shows_of_hidingShape? {lifetime : Option String} {elem : Ty}
    (h : hidingShape? m = some (.event lifetime elem)) : elem.showsImplTrait = false := by
  unfold hidingShape? at h
  split at h
  · cases h
  · unfold Shape.ofType? at h
    split at h
    · split at h
      · cases h
      · rename_i hshows
        cases h
        exact Bool.eq_false_iff.mpr hshows
    · cases h
  · cases h

theorem hidingShape?_of_ofMethod {d : Declaration} (h : ofMethod m = .ok (some d)) :
    hidingShape? m = some d.shape := by
  rcases ofMethod_ok_some_iff.mp h with ⟨-, hunmarked⟩ | ⟨options, -, hhandler⟩
  · obtain ⟨-, -, -, shape, hshape, rfl⟩ := ofUnmarked?_eq_some_iff.mp hunmarked
    exact hshape
  · obtain ⟨-, -, -, shape, hshape, rfl⟩ := ofHandler_checks.mp hhandler
    exact (handlerShape_ok_iff.mp hshape).2

theorem not_shows_of_writtenType? {d : Declaration} {t : Ty} (h : ofMethod m = .ok (some d))
    (ht : d.writtenType? = some t) : t.showsImplTrait = false := by
  have hshape := hidingShape?_of_ofMethod h
  unfold writtenType? at ht
  split at ht
  · cases ht
  · rename_i lifetime elem hevent
    have helem : elem.showsImplTrait = false := not_shows_of_hidingShape? (hevent ▸ hshape)
    cases ht
    split
    · exact helem
    · rw [Ty.showsImplTrait]
      exact helem

/-- The check finds the types without a name that stand where it looks, and misses exactly
those that are hidden. So a method is left out or rejected if its parameter shows one, and a
type that a declaration writes mentions one exactly if it hides it. -/
theorem unnamed_types_refused_unless_hidden (t : Ty) (m : Method) :
    ((t.showsImplTrait = true ↔ t.ShowsImplTrait) ∧
      (t.MentionsImplTrait ↔ t.ShowsImplTrait ∨ t.HidesImplTrait) ∧
      ((t.showsImplTrait = true ↔ t.MentionsImplTrait) ↔
        (t.HidesImplTrait → t.ShowsImplTrait))) ∧
    (∀ param : Param, m.params = [param] → param.type.ShowsImplTrait →
      (m.handlerOptions = .ok none → ofMethod m = .ok none) ∧
      ∀ options, m.handlerOptions = .ok (some options) →
        ∃ problem, ofMethod m = .error problem ∧
          (m.isGeneric = false → m.signature.isAsync = false → m.sharesTarget = true →
            problem = .unnamedType m.name)) ∧
    ∀ d : Declaration, ofMethod m = .ok (some d) → d.writtenType? = some t →
      ¬t.ShowsImplTrait ∧ (t.MentionsImplTrait ↔ t.HidesImplTrait) ∧
      ∃ lead, d.code =
        if d.isHandler then lead ++ (BuilderCall.handlesEvent t).tokens d.name
        else [.group .brace (lead ++ (BuilderCall.paramOpaque t).tokens d.name)] := by
  refine ⟨⟨Ty.showsImplTrait_iff, Ty.mentionsImplTrait_iff, ?_⟩, ?_, ?_⟩
  · rw [Ty.showsImplTrait_iff, Ty.mentionsImplTrait_iff]
    constructor
    · intro h hhides
      exact h.mpr (.inr hhides)
    · intro h
      exact ⟨.inl, fun hmentions => hmentions.elim id h⟩
  · intro param hparams hshows
    rw [← Ty.showsImplTrait_iff] at hshows
    constructor
    · intro hunmarked
      simp [ofMethod, hunmarked, ofUnmarked?_of_shows hparams hshows, bind, Except.bind, pure,
        Except.pure]
    · intro options hmarked
      obtain ⟨problem, hproblem, hunnamed⟩ := ofHandler_of_shows hparams hshows options
      exact ⟨problem, by simp [ofMethod, hmarked, hproblem, bind, Except.bind], hunnamed⟩
  · intro d hmethod ht
    have hshows : ¬t.ShowsImplTrait := by
      rw [← Ty.showsImplTrait_iff, not_shows_of_writtenType? hmethod ht]
      exact Bool.false_ne_true
    rw [Ty.mentionsImplTrait_iff]
    exact ⟨hshows, or_iff_right hshows, code_of_writtenType? ht⟩

/-- A slice of boxes of a type without a name, where a macro put in the boxes. -/
theorem unnamed_types_refused_in_slice :
    let display : Ty := .implTrait [.trait false false [] (.ofName "Display")] false
    let label : Ty := .path (.mk false [.mk "Box" (.angle false [.type display] false)])
    let labels : Ty := .slice (.group label)
    let m := markedMethod "show_all" (.reference none false labels)
    ofMethod m.unmarked = .ok none ∧ ofMethod m = .error (.unnamedType "show_all") := by
  intro display label labels m
  have hshows : (Ty.reference none false labels).ShowsImplTrait := Ty.showsImplTrait_iff.mp rfl
  obtain ⟨-, hmarked, -⟩ := unnamed_types_refused_unless_hidden labels m
  obtain ⟨-, hunmarked, -⟩ := unnamed_types_refused_unless_hidden labels m.unmarked
  obtain ⟨problem, hproblem, hunnamed⟩ := (hmarked _ rfl hshows).2 ⟨[]⟩ rfl
  obtain rfl := hunnamed rfl rfl rfl
  exact ⟨(hunmarked _ rfl hshows).1 rfl, hproblem⟩

/-- A trait object with an item type that has no name is not refused, with a marker or
without. -/
theorem declares_hidden_item_type :
    let event : Ty := .implTrait [.trait false false [] (.ofName "Event")] false
    let events : Ty := .traitObject true [.trait false false [] (.mk false
      [.mk "Iterator" (.angle false [.assocType "Item" .none event] false)])] false
    let m := markedMethod "on_any" (.reference none false events)
    events.MentionsImplTrait ∧ events.showsImplTrait = false ∧
      ofMethod m = .ok (some ⟨"on_any", .event none events, some []⟩) ∧
      ofMethod m.unmarked = .ok (some ⟨"on_any", .event none events, none⟩) := by
  intro event events m
  exact ⟨.part (List.mem_singleton_self event) (.self _ _), rfl, rfl, rfl⟩

end Declaration

end EventWiring
