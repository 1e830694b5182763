import EventWiring.Proofs.Declaration.Meaning
import EventWiring.Proofs.Handler.Resolution

/-! Marked and unmarked methods. A method that is fit to be a handler enters the model
without its marker too, under the same signature: it goes on hiding what it hid as a
handler. -/
namespace EventWiring

open Source

/-! ### Shapes -/

/-- A type without a name has no shape, whether it is asked for before or not. -/
theorem Shape.ofType?_of_showsImplTrait {t : Ty} (h : t.showsImplTrait = true) :
    ofType? t = none := by
  unfold ofType?
  split
  · rename_i lifetime elem
    rw [Ty.showsImplTrait] at h
    rw [if_pos h]
  · rfl

namespace Declaration

variable {m : Method} {options : HandlerOptions}

/-- A handler has the shape that a method must have to hide one, and its parameter or
its list says what it handles. -/
theorem handlerShape_ok_iff {shape : Shape} :
    handlerShape m options = .ok shape ↔
      (options.handles ≠ [] ∨ m.params ≠ []) ∧ hidingShape? m = some shape := by
  unfold handlerShape hidingShape?
  match m.params with
  | [] => cases options.handles <;> simp
  | [param] =>
    dsimp only
    by_cases hshows : param.type.showsImplTrait = true
    · rw [if_pos hshows, Shape.ofType?_of_showsImplTrait hshows]
      simp
    · rw [if_neg hshows]
      cases Shape.ofType? param.type <;> simp
  | _ :: _ :: _ => simp

theorem ofUnmarked?_eq_some_iff {d : Declaration} :
    ofUnmarked? m = some d ↔
      m.isGeneric = false ∧ m.signature.isAsync = false ∧ m.sharesTarget = true ∧
        ∃ shape, hidingShape? m = some shape ∧ d = ⟨m.name, shape, none⟩ := by
  unfold ofUnmarked?
  cases m.isGeneric <;> cases m.signature.isAsync <;> cases m.sharesTarget <;>
    simp [Option.map_eq_some_iff, @eq_comm _ d]

theorem ofHandler_checks {d : Declaration} :
    ofHandler m options = .ok d ↔
      m.isGeneric = false ∧ m.signature.isAsync = false ∧ m.sharesTarget = true ∧
        ∃ shape, handlerShape m options = .ok shape ∧
          d = ⟨m.name, shape, some options.handles⟩ := by
  unfold ofHandler
  cases m.isGeneric <;> cases m.signature.isAsync <;> cases m.sharesTarget <;>
    cases handlerShape m options <;>
    simp [bind, Except.bind, pure, Except.pure, throw, throwThe, MonadExceptOf.throw, eq_comm]

/-- A method is a handler if it may hide one, unless nothing says what it handles. But
for its list it is declared as it would be without its marker. -/
theorem ofHandler_ok_iff {d : Declaration} :
    ofHandler m options = .ok d ↔
      (options.handles ≠ [] ∨ m.params ≠ []) ∧
        ∃ d', ofUnmarked? m = some d' ∧ d = { d' with handles := some options.handles } := by
  simp only [ofHandler_checks, handlerShape_ok_iff, ofUnmarked?_eq_some_iff]
  constructor
  · rintro ⟨hgeneric, hasync, htarget, shape, ⟨hhandles, hshape⟩, rfl⟩
    exact ⟨hhandles, _, ⟨hgeneric, hasync, htarget, shape, hshape, rfl⟩, rfl⟩
  · rintro ⟨hhandles, _, ⟨hgeneric, hasync, htarget, shape, hshape, rfl⟩, rfl⟩
    exact ⟨hgeneric, hasync, htarget, shape, ⟨hhandles, hshape⟩, rfl⟩

/-! ### Markers -/

theorem ofMethod_ok_some_iff {d : Declaration} :
    ofMethod m = .ok (some d) ↔
      (m.handlerOptions = .ok none ∧ ofUnmarked? m = some d) ∨
        ∃ options, m.handlerOptions = .ok (some options) ∧ ofHandler m options = .ok d := by
  unfold ofMethod
  rw [ok_bind_iff]
  constructor
  · rintro ⟨_ | options, hoptions, h⟩
    · exact .inl ⟨hoptions, Except.ok.inj h⟩
    · obtain ⟨d', hd', h⟩ := ok_bind_iff.mp h
      cases h
      exact .inr ⟨options, hoptions, hd'⟩
  · rintro (⟨hoptions, h⟩ | ⟨options, hoptions, h⟩)
    · exact ⟨none, hoptions, congrArg Except.ok h⟩
    · exact ⟨some options, hoptions, ok_bind_iff.mpr ⟨d, h, rfl⟩⟩

theorem of_marked {d : Declaration} (h : ofMethod m = .ok (some d))
    (hmarked : m.handlerOptions = .ok (some options)) :
    (options.handles ≠ [] ∨ m.params ≠ []) ∧
      ∃ shape, hidingShape? m = some shape ∧ d = ⟨m.name, shape, some options.handles⟩ := by
  rcases ofMethod_ok_some_iff.mp h with ⟨hplain, -⟩ | ⟨_, hoptions, h⟩
  · rw [hplain] at hmarked
    cases hmarked
  · rw [hoptions] at hmarked
    cases hmarked
    obtain ⟨hsource, d', hd', rfl⟩ := ofHandler_ok_iff.mp h
    obtain ⟨-, -, -, shape, hshape, rfl⟩ := ofUnmarked?_eq_some_iff.mp hd'
    exact ⟨hsource, shape, hshape, rfl⟩

theorem handlerOptions_unmarked (m : Method) : m.unmarked.handlerOptions = .ok none := by
  have hmarkers : m.unmarked.attrs.filter Attribute.isMarker = [] := by simp [Method.unmarked]
  rw [Method.handlerOptions, hmarkers]

theorem of_ofUnmarked? {d : Declaration} (h : ofUnmarked? m = some d) :
    d.name = m.name ∧ d.handles = none := by
  obtain ⟨-, -, -, shape, -, rfl⟩ := ofUnmarked?_eq_some_iff.mp h
  exact ⟨rfl, rfl⟩

/-- A method that enters the model enters it without its marker too, in the same
form. -/
theorem ofMethod_unmarked {d : Declaration} (h : ofMethod m = .ok (some d)) :
    ofMethod m.unmarked = .ok (some { d with handles := none }) := by
  have hplain : ofUnmarked? m = some { d with handles := none } := by
    rcases ofMethod_ok_some_iff.mp h with ⟨-, h⟩ | ⟨options, -, h⟩
    · rw [h, ← (of_ofUnmarked? h).2]
    · obtain ⟨-, d', hd', rfl⟩ := ofHandler_ok_iff.mp h
      rw [hd', ← (of_ofUnmarked? hd').2]
  exact ofMethod_ok_some_iff.mpr (.inl ⟨handlerOptions_unmarked m, hplain⟩)

/-! ### Signatures -/

variable {T A : Type}

/-- The signature of what is built does not depend on whether the method is a handler:
a reference is named after what it refers to. -/
theorem signature_declare {μ : Meaning T A}
    (hreferences : ∀ lifetime t, μ.typeName (.reference lifetime false t) = "&" ++ μ.typeName t)
    {d : Declaration} (hevent : ∀ elem ∈ d.shape.elem?, (μ.event elem).name = μ.typeName elem) :
    (μ.declare d).signature =
      ⟨d.name, d.shape.elem?.toList.map fun t => "&" ++ μ.typeName t⟩ := by
  have hparams : (μ.declare d).params.map ParamType.typeName =
      d.shape.elem?.toList.map fun t => "&" ++ μ.typeName t := by
    rw [Meaning.params_declare]
    cases hshape : d.shape with
    | alone => split <;> rfl
    | event lifetime elem =>
      have hname : (μ.event elem).name = μ.typeName elem := hevent elem (by rw [hshape]; rfl)
      split
      · simp [Shape.elem?, ParamType.typeName, hname]
      · simp [Shape.elem?, Shape.written, ParamType.typeName, hreferences]
  rw [MethodDecl.signature, hparams, Meaning.name_declare]

/-- A method can be declared as a handler exactly if it can be declared as one that
may hide a handler, where a list or a parameter says what it handles. The two
declarations have one name and one shape. What they build has one signature, provided
that the name of a reference does not show its lifetime. So a handler whose marker is
taken away hides what it hid. -/
theorem ofHandler_iff_unmarked {μ : Meaning T A}
    (hreferences : ∀ lifetime t, μ.typeName (.reference lifetime false t) = "&" ++ μ.typeName t)
    (m : Method) (handles : List Ty) (h : handles ≠ [] ∨ m.params ≠ []) :
    ((∃ d, ofHandler m ⟨handles⟩ = .ok d) ↔ ∃ d, ofUnmarked? m = some d) ∧
    (∀ d d', ofHandler m ⟨handles⟩ = .ok d → ofUnmarked? m = some d' →
      d.name = m.name ∧ d'.name = m.name ∧ d.shape = d'.shape ∧
        ((∀ elem ∈ d.shape.elem?, (μ.event elem).name = μ.typeName elem) →
          (μ.declare d).signature = (μ.declare d').signature)) ∧
    ∀ d, ofMethod m = .ok (some d) →
      ofMethod m.unmarked = .ok (some { d with handles := none }) := by
  refine ⟨?_, ?_, fun d => ofMethod_unmarked⟩
  · simp only [ofHandler_ok_iff]
    constructor
    · rintro ⟨_, -, d', hd', -⟩
      exact ⟨d', hd'⟩
    · rintro ⟨d', hd'⟩
      exact ⟨_, h, d', hd', rfl⟩
  · intro d d' hd hd'
    obtain ⟨-, _, hunmarked, hdeclared⟩ := ofHandler_ok_iff.mp hd
    cases hd'.symm.trans hunmarked
    have hname : d.name = d'.name := by rw [hdeclared]
    have hshape : d.shape = d'.shape := by rw [hdeclared]
    have hmethod : d'.name = m.name := (of_ofUnmarked? hd').1
    refine ⟨hname.trans hmethod, hmethod, hshape, fun hevent => ?_⟩
    rw [signature_declare hreferences hevent,
      signature_declare hreferences (hshape ▸ hevent), hname, hshape]

/-- The name of a type of a crate when the code runs. -/
def nameIn (crate : String) : Ty → String
  | .reference _ false t => "&" ++ nameIn crate t
  | t => crate ++ "::" ++ Source.displayAll t.tokens

/-- A marked method of a shared target, with one parameter and without a list. -/
def markedMethod (name : String) (param : Ty) : Method :=
  { attrs := [⟨false, false, ["event_handler"], .none⟩], visibility := [], isDefault := false
    signature :=
      { isConst := false, isAsync := false, safety := [], abi := [], name
        generics := ⟨[], false⟩
        inputs := ⟨some ⟨[], some none, false, none⟩, [⟨[], [.ident "e"], param⟩], false, []⟩
        output := none, whereClause := [] }
    body := [] }

/-- A method that takes its event by a reference with a lifetime. -/
theorem ofHandler_iff_unmarked_of_lifetime :
    let m := markedMethod "on_opened" (.reference (some "static") false (.path (.ofName "Opened")))
    let μ : Meaning Nat Nat :=
      ⟨fun _ => .concrete ⟨1, "app::Opened"⟩, nameIn "app", fun _ count _ => count⟩
    ∃ d d', ofHandler m ⟨[]⟩ = .ok d ∧ ofUnmarked? m = some d' ∧
      (μ.declare d).signature = ⟨"on_opened", ["&app::Opened"]⟩ ∧
      (μ.declare d').signature = (μ.declare d).signature ∧
      ofMethod m.unmarked = .ok (some { d with handles := none }) := by
  intro m μ
  have hreferences : ∀ lifetime t, μ.typeName (.reference lifetime false t) = "&" ++ μ.typeName t :=
    fun _ _ => rfl
  have hparams : m.params ≠ [] := by simp [m, markedMethod, Method.params]
  obtain ⟨hiff, hsame, hunmarked⟩ :=
    ofHandler_iff_unmarked hreferences m [] (.inr hparams)
  obtain ⟨d', hd'⟩ : ∃ d', ofUnmarked? m = some d' := ⟨_, rfl⟩
  obtain ⟨d, hd⟩ := hiff.mpr ⟨d', hd'⟩
  obtain ⟨-, -, hshape, hsignature⟩ := hsame d d' hd hd'
  have helem : d.shape.elem? = some (.path (.ofName "Opened")) := by
    rw [hshape]
    cases hd'
    rfl
  have hevent : ∀ elem ∈ d.shape.elem?, (μ.event elem).name = μ.typeName elem := by
    intro elem hmem
    rw [helem] at hmem
    cases hmem
    decide
  refine ⟨d, d', hd, hd', ?_, (hsignature hevent).symm, hunmarked d ?_⟩
  · rw [hsignature hevent]
    cases hd'
    decide
  · exact ofMethod_ok_some_iff.mpr (.inr ⟨⟨[]⟩, rfl, hd⟩)

end Declaration

end EventWiring
