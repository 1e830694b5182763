import EventWiring.Proofs.Declaration.Chains
import EventWiring.Proofs.Handler.Faults

/-! What an accepted block leaves to the resolution. The two check handlers
independently, one by what is written and the other by what it means. Along a chain of
accepted blocks only the types can still be at fault: whether one that is to be
handled is concrete, and whether the parameter takes one that is listed. -/
namespace EventWiring

open Source Resolution

variable {T A : Type}

/-! ### Faults of types -/

/-- Whether a fault is one of what types mean. -/
def HandlerFault.isOfTypes : HandlerFault → Bool
  | .abstractParameter _ | .abstractEvent _ | .notAssignable _ _ => true
  | _ => false

/-! ### Checked handlers -/

/-- The types that the parameters of a method refer to. -/
def Source.Method.elems (m : Method) : List Ty := m.params.filterMap (·.type.referent?)

/-- A method that may hide a handler has one for each parameter, of which there is at
most one. -/
theorem Source.Method.elems_eq {m : Method} {shape : Shape}
    (h : Declaration.hidingShape? m = some shape) :
    m.elems = shape.elem?.toList ∧ m.elems.length = m.params.length := by
  unfold Declaration.hidingShape? at h
  unfold elems
  -- with two parameters or more a method has no shape
  match hparams : m.params with
  | [] =>
    rw [hparams] at h
    cases h
    exact ⟨rfl, rfl⟩
  | [param] =>
    rw [hparams] at h
    obtain ⟨elem, helem, hreferent⟩ := Shape.elem?_of_ofType? h
    rw [List.filterMap_cons, hreferent, helem]
    exact ⟨rfl, rfl⟩
  | _ :: _ :: _ =>
    rw [hparams] at h
    cases h

namespace Site

/-- The types that a handler is to handle: those of its list, or else that of its
parameter. -/
def handled (s : Site T A) (options : HandlerOptions) : List Ty :=
  if options.handles.isEmpty then s.method.elems else options.handles

theorem handled_of_unlisted {s : Site T A} {options : HandlerOptions} (h : options.handles = []) :
    s.handled options = s.method.elems := by
  rw [handled, h]
  rfl

theorem handled_of_mem {s : Site T A} {options : HandlerOptions} {t : Ty}
    (h : t ∈ options.handles) : s.handled options = options.handles := by
  rw [handled, if_neg]
  simpa using List.ne_nil_of_mem h

/-- What the types of a handler must mean. -/
structure Fits (s : Site T A) (options : HandlerOptions) : Prop where
  concrete : ∀ t ∈ s.handled options, (s.meaning.event t).isAbstract = false
  assignable : ∀ t ∈ options.handles, ∀ p ∈ s.method.elems,
    (s.meaning.event t).isAssignableTo (s.meaning.event p) = true

/-- What is known of a handler from the check of its block. -/
structure Checked (s : Site T A) (options : HandlerOptions) : Prop where
  marked : s.decl.annotation =
    some ⟨options.handles.map fun t => .type (s.meaning.event t)⟩
  params : s.decl.params = s.method.elems.map fun t => .event (s.meaning.event t)
  single : ∃ elem : Option Ty, s.method.elems = elem.toList
  inhabited : s.handled options ≠ []
  runs : s.decl.invoker.isSome = true

namespace Checked

variable {s : Site T A} {options : HandlerOptions} {catalog : Option EventCatalog}
  {a : Annotation}

theorem of_ofMethod (h : Declaration.ofMethod s.method = .ok (some s.declaration))
    (hmarked : s.method.handlerOptions = .ok (some options)) : s.Checked options := by
  obtain ⟨hsource, shape, hshape, hdeclaration⟩ := Declaration.of_marked h hmarked
  obtain ⟨helems, hlength⟩ := Source.Method.elems_eq hshape
  have hhandler : s.declaration.isHandler = true := by rw [hdeclaration]; rfl
  refine ⟨?_, ?_, ⟨shape.elem?, helems⟩, ?_, ?_⟩
  · show MethodDecl.annotation (s.meaning.declare s.declaration) = _
    rw [Meaning.annotation_declare, hdeclaration]
    rfl
  · show (s.meaning.declare s.declaration).params = _
    rw [Meaning.params_declare, if_pos hhandler, helems, hdeclaration]
  · intro hnil
    cases hhandles : options.handles with
    | cons t ts =>
      rw [handled_of_mem (hhandles ▸ List.mem_cons_self), hhandles] at hnil
      cases hnil
    | nil =>
      -- without a list there is a parameter, and it refers to a type
      have hparams : s.method.params ≠ [] := hsource.resolve_left (absurd hhandles)
      rw [handled_of_unlisted hhandles] at hnil
      rw [hnil] at hlength
      exact hparams (List.eq_nil_of_length_eq_zero hlength.symm)
  · show ((s.meaning.declare s.declaration).invoker.map _).isSome = true
    rw [Option.isSome_map, Meaning.isSome_invoker_declare, hhandler]

theorem arity (h : s.Checked options) : s.decl.params.length ≤ 1 := by
  obtain ⟨elem, helem⟩ := h.single
  rw [h.params, List.length_map, helem]
  cases elem <;> simp

theorem eq_type (h : s.Checked options) (ha : s.decl.annotation = some a) {r : EventRef}
    (hr : r ∈ a.events) : ∃ t ∈ options.handles, r = .type (s.meaning.event t) := by
  rw [h.marked] at ha
  cases ha
  obtain ⟨t, ht, rfl⟩ := List.mem_map.mp hr
  exact ⟨t, ht, rfl⟩

theorem events_eq_nil_iff (h : s.Checked options) (ha : s.decl.annotation = some a) :
    a.events = [] ↔ options.handles = [] := by
  rw [h.marked] at ha
  cases ha
  exact List.map_eq_nil_iff

theorem event_mem_params_iff (h : s.Checked options) {p : EventType} :
    .event p ∈ s.decl.params ↔ ∃ t ∈ s.method.elems, s.meaning.event t = p := by
  rw [h.params]
  simp

theorem concrete_of_mem (h : s.Checked options) (ha : s.decl.annotation = some a)
    (hwell : WellFormed catalog s.decl a) {t : Ty} (ht : t ∈ options.handles) :
    ∃ c, s.meaning.event t = .concrete c ∧ ∀ p ∈ s.method.elems,
      (EventType.concrete c).isAssignableTo (s.meaning.event p) = true := by
  have hr : .type (s.meaning.event t) ∈ a.events := by
    rw [h.marked] at ha
    cases ha
    exact List.mem_map_of_mem ht
  obtain ⟨c, hnames, hassign⟩ := hwell.listed _ hr
  exact ⟨c, (Names.type _).unique hnames,
    fun p hp => hassign _ (h.event_mem_params_iff.mpr ⟨p, hp, rfl⟩)⟩

theorem concrete_of_unlisted (h : s.Checked options) (ha : s.decl.annotation = some a)
    (hwell : WellFormed catalog s.decl a) (hunlisted : options.handles = []) {t : Ty}
    (ht : t ∈ s.method.elems) : ∃ c, s.meaning.event t = .concrete c := by
  obtain ⟨c, hc⟩ := hwell.unlisted ((h.events_eq_nil_iff ha).mpr hunlisted)
  obtain ⟨t', ht', he⟩ := h.event_mem_params_iff.mp hc
  -- there is one parameter at most
  obtain ⟨elem, helem⟩ := h.single
  rw [helem, Option.mem_toList] at ht ht'
  cases ht.symm.trans ht'
  exact ⟨c, he⟩

/-- A handler can be wired exactly if its types fit. -/
theorem wellFormed_iff (h : s.Checked options) (ha : s.decl.annotation = some a) :
    WellFormed catalog s.decl a ↔ s.Fits options := by
  constructor
  · intro hwell
    constructor
    · intro t ht
      have hconcrete : ∃ c, s.meaning.event t = .concrete c := by
        cases hhandles : options.handles with
        | nil =>
          rw [handled_of_unlisted hhandles] at ht
          exact h.concrete_of_unlisted ha hwell hhandles ht
        | cons t' ts =>
          rw [handled_of_mem (hhandles ▸ List.mem_cons_self)] at ht
          obtain ⟨c, hc, -⟩ := h.concrete_of_mem ha hwell ht
          exact ⟨c, hc⟩
      obtain ⟨c, hc⟩ := hconcrete
      rw [hc]
      rfl
    · intro t ht p hp
      obtain ⟨c, hc, hassign⟩ := h.concrete_of_mem ha hwell ht
      rw [hc]
      exact hassign p hp
  · intro hfits
    constructor
    · exact h.arity
    · intro p hp
      rw [h.params] at hp
      obtain ⟨t, -, rfl⟩ := List.mem_map.mp hp
      exact ⟨_, rfl⟩
    · intro r hr
      obtain ⟨t, ht, rfl⟩ := h.eq_type ha hr
      obtain ⟨c, hc⟩ := eq_concrete_of_isAbstract
        (hfits.concrete t ((handled_of_mem ht).symm ▸ ht))
      refine ⟨c, hc ▸ .type _, fun p hp => ?_⟩
      obtain ⟨t', ht', rfl⟩ := h.event_mem_params_iff.mp hp
      exact hc ▸ hfits.assignable t ht t' ht'
    · -- without a list, what is to be handled is the type of the parameter
      intro hevents
      have hunlisted := (h.events_eq_nil_iff ha).mp hevents
      obtain ⟨t, ht⟩ := List.exists_mem_of_ne_nil _ h.inhabited
      obtain ⟨c, hc⟩ := eq_concrete_of_isAbstract (hfits.concrete t ht)
      rw [handled_of_unlisted hunlisted] at ht
      exact ⟨c, h.event_mem_params_iff.mpr ⟨t, ht, hc⟩⟩
    · exact h.runs

/-- If a handler is at fault, its types are. -/
theorem isOfTypes (h : s.Checked options) (ha : s.decl.annotation = some a)
    {fault : HandlerFault} (failed : describe catalog s.decl a = .error fault) :
    fault.isOfTypes = true := by
  obtain ⟨c, hc, hfails⟩ := (firstFault_describe failed).exists_mem
  -- the checks that are not about types cannot fail: the block's own have them covered
  cases hfails with
  | arity many => exact absurd many (Nat.not_lt.mpr h.arity)
  | parameter foreign =>
    rw [h.params] at foreign
    simp at foreign
  | unknown missing =>
    obtain ⟨t, -, ht⟩ := h.eq_type ha (mem_events_of_known hc)
    cases ht
  | ambiguous given several =>
    obtain ⟨t, -, ht⟩ := h.eq_type ha (mem_events_of_known hc)
    cases ht
  | abstractEvent names base => rfl
  | notAssignable names takes refused => rfl
  | missingEventList unlisted none =>
    have helems : s.method.elems = [] := List.map_eq_nil_iff.mp (h.params ▸ none)
    rw [h.events_eq_nil_iff ha] at unlisted
    exact absurd ((handled_of_unlisted unlisted).trans helems) h.inhabited
  | abstractParameter unlisted takes base => rfl
  | missingInvoker none =>
    have hruns := h.runs
    rw [none] at hruns
    cases hruns

end Checked

/-- What is built from a method as a handler comes from a marked method. -/
theorem exists_checked {s : Site T A}
    (h : Declaration.ofMethod s.method = .ok (some s.declaration)) {a : Annotation}
    (ha : s.decl.annotation = some a) :
    ∃ options, s.method.handlerOptions = .ok (some options) ∧ s.Checked options := by
  rcases Declaration.ofMethod_ok_some_iff.mp h with ⟨-, hplain⟩ | ⟨options, hoptions, -⟩
  · -- an unmarked method only hides
    have hnone : s.decl.annotation = none := by
      show MethodDecl.annotation (s.meaning.declare s.declaration) = none
      rw [Meaning.annotation_declare, (Declaration.of_ofUnmarked? hplain).2]
      rfl
    rw [hnone] at ha
    cases ha
  · exact ⟨options, hoptions, .of_ofMethod h hoptions⟩

end Site

/-! ### Chains -/

namespace Chain

theorem mem_inheritable_iff (c : Chain A T) {d : MethodDecl T A} :
    d ∈ c.model.inheritable ↔ ∃ before s after, c.sites = before ++ s :: after ∧
      (∀ b ∈ before, b.decl.signature ≠ s.decl.signature) ∧ s.decl = d := by
  rw [TypeModel.mem_inheritable_iff, c.declarations_model]
  constructor
  · rintro ⟨_, _, hsplit, hfirst⟩
    obtain ⟨before, rest, hsites, rfl, hrest⟩ := List.map_eq_append_iff.mp hsplit
    obtain ⟨s, after, rfl, rfl, rfl⟩ := List.map_eq_cons_iff.mp hrest
    exact ⟨before, s, after, hsites, fun b hb => hfirst _ (List.mem_map_of_mem hb), rfl⟩
  · rintro ⟨before, s, after, hsites, hfirst, rfl⟩
    refine ⟨before.map Site.decl, after.map Site.decl, ?_, List.forall_mem_map.mpr hfirst⟩
    rw [hsites, List.map_append, List.map_cons]

/-- The code of accepted blocks is a chain of calls in each, and what these build is one
model. It declares every marked method of the blocks, and is only ever rejected for what
types mean. It resolves exactly if, for each marked method that is
not hidden, each type that it is to handle is concrete, and its parameter, if it has
one, takes each type of its list. -/
theorem resolve_ok_iff_fits (c : Chain A T) (catalog : Option EventCatalog) :
    (∀ b ∈ c.blocks, Expansion.modelCode b.block.target b.declarations b.options.parent =
      Emitted.model b.block.target b.calls) ∧
    (∀ m, c.Builds m ↔ m = c.model) ∧
    c.model.declarations = c.sites.map Site.decl ∧
    (∀ m ∈ c.methods, ∀ options, m.handlerOptions = .ok (some options) →
      ∃ s ∈ c.sites, s.method = m) ∧
    (∀ e, c.model.resolve catalog = .error e → e.fault.isOfTypes = true) ∧
    ((∃ hs, c.model.resolve catalog = .ok hs) ↔
      ∀ before s after, c.sites = before ++ s :: after →
        (∀ b ∈ before, b.decl.signature ≠ s.decl.signature) →
        ∀ options, s.method.handlerOptions = .ok (some options) → s.Fits options) := by
  refine ⟨fun b _ => Expansion.modelCode_eq .., fun m => builds_iff, c.declarations_model,
    fun m hm options => exists_site_of_marked hm, ?_, ?_⟩
  · intro e failed
    obtain ⟨before, d, after, a, hmethods, -, ha, hfault, -, -⟩ :=
      exists_of_describeAll_error failed
    have hd : d ∈ c.model.inheritable :=
      hmethods ▸ List.mem_append_right before List.mem_cons_self
    obtain ⟨before, s, after, hsites, -, rfl⟩ := c.mem_inheritable_iff.mp hd
    have hs : s ∈ c.sites := hsites ▸ List.mem_append_right before List.mem_cons_self
    obtain ⟨options, -, hchecked⟩ := Site.exists_checked (c.ofMethod_of_mem_sites s hs) ha
    exact hchecked.isOfTypes ha hfault
  · rw [TypeModel.resolve, exists_describeAll_iff]
    constructor
    · intro hwell before s after hsites hfirst options hmarked
      have hs : s ∈ c.sites := hsites ▸ List.mem_append_right before List.mem_cons_self
      have hchecked : s.Checked options := .of_ofMethod (c.ofMethod_of_mem_sites s hs) hmarked
      have hd : s.decl ∈ c.model.inheritable :=
        c.mem_inheritable_iff.mpr ⟨before, s, after, hsites, hfirst, rfl⟩
      exact (hchecked.wellFormed_iff hchecked.marked).mp (hwell _ hd _ hchecked.marked)
    · intro hfits d hd a ha
      obtain ⟨before, s, after, hsites, hfirst, rfl⟩ := c.mem_inheritable_iff.mp hd
      have hs : s ∈ c.sites := hsites ▸ List.mem_append_right before List.mem_cons_self
      obtain ⟨options, hmarked, hchecked⟩ := Site.exists_checked (c.ofMethod_of_mem_sites s hs) ha
      exact (hchecked.wellFormed_iff ha).mpr (hfits before s after hsites hfirst options hmarked)

/-- Whether a handler can be wired that takes an event and lists none depends on what
its parameter refers to. -/
theorem resolve_ok_iff_fits_of_parameter :
    let method := Declaration.markedMethod "on_any" (.reference none false (.path (.ofName "Any")))
    let block : ImplBlock :=
      ⟨[], false, false, ⟨[], false⟩, none, .path (.ofName "Panel"), [], [.method method]⟩
    let d : Declaration := ⟨"on_any", .event none (.path (.ofName "Any")), some []⟩
    let b : AcceptedBlock := ⟨⟨none⟩, block, [d], rfl⟩
    let chain (t : EventType) : Chain Nat Nat :=
      .root b ⟨fun _ => t, fun _ => "", fun _ n _ => n⟩ rfl
    (∃ hs, (chain (.concrete ⟨1, "Opened"⟩)).model.resolve none = .ok hs) ∧
      ∃ e, (chain .base).model.resolve none = .error e ∧ e.fault.isOfTypes = true := by
  intro method block d b chain
  obtain ⟨-, -, -, -, -, hiff⟩ := resolve_ok_iff_fits (chain (.concrete ⟨1, "Opened"⟩)) none
  obtain ⟨-, -, -, -, hfaults, -⟩ := resolve_ok_iff_fits (chain .base) none
  refine ⟨hiff.mpr ?_, _, rfl, hfaults _ rfl⟩
  intro before s after hsites _ options hmarked
  have hs : s ∈ (chain (.concrete ⟨1, "Opened"⟩)).sites :=
    hsites ▸ List.mem_append_right before List.mem_cons_self
  obtain rfl := List.mem_singleton.mp hs
  cases hmarked
  exact ⟨fun t _ => rfl, fun t ht => absurd ht List.not_mem_nil⟩

end Chain

end EventWiring
