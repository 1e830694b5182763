import EventWiring.Proofs.Handler.Inheritance
import EventWiring.Proofs.Handler.Resolution

/-! No delivery is lost between a bus and a handler's body. A handler is run
through a cast to the type that its body takes; the list of parameters starts with
that type however the declaration was built, so every type that the resolution
wires the handler to passes the cast. -/
namespace EventWiring

variable {T A : Type}

/-! ### Casts -/

/-- An event of an assignable type passes the cast. -/
theorem EventType.accepts_of_isAssignableTo {type : EventType} {e : Event}
    (h : e.eventType.isAssignableTo type = true) : type.accepts e = true := by
  simp only [isAssignableTo, Bool.or_eq_true, decide_eq_true_eq] at h
  rcases h with rfl | rfl
  · simp [accepts, Event.eventType]
  · rfl

namespace Resolution

/-- Whatever a handler with a parameter is wired to, its parameter takes. -/
theorem isAssignableTo_of_handledTypes {catalog : Option EventCatalog} {a : Annotation}
    {type : EventType} {more : List ParamType} {ts : List EventType}
    (h : handledTypes catalog a (.event type :: more) = .ok ts) {t : EventType} (ht : t ∈ ts) :
    t.isAssignableTo type = true := by
  obtain ⟨param, hparams, htypes⟩ := handledTypes_ok_iff.mp h
  have hparam : param = some type := by
    cases param with
    | none => cases hparams
    | some p =>
      cases hparams
      rfl
  subst hparam
  split at htypes
  · obtain ⟨c, hc, rfl⟩ := htypes
    cases hc
    rw [List.mem_singleton.mp ht]
    simp [EventType.isAssignableTo]
  · obtain ⟨r, -, hr⟩ := exists_mem_of_forall₂ htypes ht
    exact (entryType_ok_iff.mp hr).2.2 type rfl

end Resolution

/-! ### Building -/

namespace MethodDecl

/-- Whether a step sets how the method is run. -/
def Step.setsInvoker : Step T A → Bool
  | .param _ => false
  | .annotated _ => false
  | .withInvoker _ => true
  | .handlesEvent _ _ => true
  | .handlesNone _ => true

/-- Steps that set no invoker leave the one that is set, and add parameters only
after those that are there. -/
theorem foldl_step_of_not_setsInvoker {steps : List (Step T A)}
    (h : ∀ s ∈ steps, s.setsInvoker = false) (d : MethodDecl T A) :
    (steps.foldl step d).invoker = d.invoker ∧
      ∃ more, (steps.foldl step d).params = d.params ++ more := by
  induction steps generalizing d with
  | nil => exact ⟨rfl, [], (List.append_nil _).symm⟩
  | cons s rest ih =>
    have hs := h s List.mem_cons_self
    have hrest : ∀ s' ∈ rest, s'.setsInvoker = false := fun s' hs' =>
      h s' (List.mem_cons_of_mem _ hs')
    obtain ⟨hinvoker, more, hparams⟩ := ih hrest (d.step s)
    cases s with
    | param p => exact ⟨hinvoker, p :: more, by rw [List.foldl_cons, hparams]; simp [step, param]⟩
    | annotated a => exact ⟨hinvoker, more, hparams⟩
    | withInvoker run => cases hs
    | handlesEvent type body => cases hs
    | handlesNone body => cases hs

theorem build_append_cons (name : String) (before after : List (Step T A)) (last : Step T A) :
    build name (before ++ last :: after) = after.foldl step ((build name before).step last) := by
  rw [build, List.foldl_append, List.foldl_cons]
  rfl

/-- A declaration as a type has it: built by steps under some name, with the name
of the type that declares it. -/
def BuiltBy (d : MethodDecl T A) (steps : List (Step T A)) : Prop :=
  ∃ name declaredBy, d = { build name steps with declaredBy }

/-- A declaration whose body was last set for events of a type casts to that type,
and its parameters start with it. -/
theorem BuiltBy.handlesEvent {d : MethodDecl T A} {before after : List (Step T A)}
    {type : EventType} {body : T → Event → A}
    (h : d.BuiltBy (before ++ .handlesEvent type body :: after))
    (final : ∀ s ∈ after, s.setsInvoker = false) :
    d.invoker = some (fun target e => if type.accepts e then some (body target e) else none) ∧
      ∃ more, d.params = .event type :: more := by
  obtain ⟨name, declaredBy, rfl⟩ := h
  rw [build_append_cons]
  obtain ⟨hinvoker, more, hparams⟩ :=
    foldl_step_of_not_setsInvoker final ((build name before).handlesEvent type body)
  exact ⟨hinvoker, more, hparams⟩

theorem BuiltBy.handlesNone {d : MethodDecl T A} {before after : List (Step T A)}
    {body : T → A} (h : d.BuiltBy (before ++ .handlesNone body :: after))
    (final : ∀ s ∈ after, s.setsInvoker = false) :
    d.invoker = some fun target _ => some (body target) := by
  obtain ⟨name, declaredBy, rfl⟩ := h
  rw [build_append_cons]
  exact (foldl_step_of_not_setsInvoker final _).1

end MethodDecl

/-! ### Delivery -/

namespace Resolution

/-- The descriptor with the signature of a method is the method's. -/
theorem describe_of_mem {catalog : Option EventCatalog} {m : TypeModel T A}
    {hs : List (HandlerDescriptor T A)} (hresolve : m.resolve catalog = .ok hs)
    {h : HandlerDescriptor T A} (hh : h ∈ hs) {d : MethodDecl T A} (hd : d ∈ m.inheritable)
    (hsignature : h.signature = d.signature) :
    ∃ a, d.annotation = some a ∧ describe catalog d a = .ok h := by
  obtain ⟨d', hd', a, ha, hdescribe⟩ := exists_mem_of_forall₂ (describeAll_ok_iff.mp hresolve) hh
  have hd' := (List.mem_filter.mp hd').1
  have hsame : d' = d :=
    TypeModel.eq_of_signature hd' hd ((describe_ok_iff.mp hdescribe).2.2.1.symm.trans hsignature)
  exact ⟨a, hsame ▸ ha, hsame ▸ hdescribe⟩

end Resolution

/-- A handler that was built in any way, last with a body, and that is declared
anywhere in the chain of a model: it stands among the model's declarations, and if
the model resolves and nothing hides it, then each event of a type that it is
wired to is delivered, that is the body runs on it. -/
theorem TypeModel.Inherits.delivers {P : Type} {m : TypeModel T A} {p : TypeModel P A} {f : T → P}
    (inherits : m.Inherits p f) {d : MethodDecl P A} (declared : d ∈ p.own.declared)
    {before after : List (MethodDecl.Step P A)} {last : MethodDecl.Step P A}
    (built : d.BuiltBy (before ++ last :: after)) (final : ∀ s ∈ after, s.setsInvoker = false) :
    d.project f ∈ m.declarations ∧
      (d.project f ∈ m.inheritable → ∀ catalog hs, m.resolve catalog = .ok hs →
        ∀ h ∈ hs, h.signature = d.signature →
        ∀ e : Event, e.eventType ∈ h.eventTypes → ∀ target,
          (∀ type body, last = .handlesEvent type body →
            type.accepts e = true ∧ h.invoker target e = some (body (f target) e)) ∧
          (∀ body, last = .handlesNone body → h.invoker target e = some (body (f target)))) := by
  refine ⟨inherits.mem_declarations declared, ?_⟩
  intro hvisible catalog hs hresolve h hh hsignature e he target
  obtain ⟨a, -, hdescribe⟩ := Resolution.describe_of_mem hresolve hh hvisible hsignature
  obtain ⟨htypes, hinvoker, -, -⟩ := Resolution.describe_ok_iff.mp hdescribe
  constructor
  · rintro type body rfl
    obtain ⟨hrun, more, hparams⟩ := built.handlesEvent final
    have hparams : (d.project f).params = .event type :: more := hparams
    rw [hparams] at htypes
    have haccepts : type.accepts e = true :=
      EventType.accepts_of_isAssignableTo (Resolution.isAssignableTo_of_handledTypes htypes he)
    rw [MethodDecl.project, hrun] at hinvoker
    rw [← Option.some.inj hinvoker]
    exact ⟨haccepts, if_pos haccepts⟩
  · rintro body rfl
    rw [MethodDecl.project, built.handlesNone final] at hinvoker
    rw [← Option.some.inj hinvoker]

/-- A parent's handler takes any event and lists one type. An event of that type
reaches the body on the parent that a child embeds. -/
theorem TypeModel.Inherits.delivers_to_parent :
    let opened : ConcreteType := ⟨1, "Opened"⟩
    let counter : TypeModel Nat Nat := (new "Counter").method (.build "on_any"
      [.handlesNone fun _ => 0, .handlesEvent .base fun n _ => n,
        .annotated ⟨[.type (.concrete opened)]⟩])
    let panel : TypeModel (Nat × Bool) Nat := (new "Panel").extending counter Prod.fst
    ∃ h, panel.resolve none = .ok [h] ∧
      h.invoker (7, true) ⟨opened, "opened", none, .null, ""⟩ = some 7 := by
  intro opened counter panel
  refine ⟨_, rfl, ?_⟩
  have inherits : panel.Inherits counter (id ∘ Prod.fst) := .parent (extends_extending ..) (.own _)
  have built : MethodDecl.BuiltBy
      { (MethodDecl.build "on_any" _ : MethodDecl Nat Nat) with declaredBy := "Counter" }
      ([.handlesNone fun _ => 0] ++ .handlesEvent .base (fun n _ => n) ::
        [.annotated ⟨[.type (.concrete opened)]⟩]) := ⟨"on_any", "Counter", rfl⟩
  have final : ∀ s ∈ [MethodDecl.Step.annotated (T := Nat) (A := Nat) ⟨[.type (.concrete opened)]⟩],
      s.setsInvoker = false := by
    intro s hs
    rw [List.mem_singleton.mp hs]
    rfl
  have delivered := (inherits.delivers List.mem_cons_self built final).2 List.mem_cons_self
    none _ rfl _ List.mem_cons_self rfl
    ⟨opened, "opened", none, .null, ""⟩ List.mem_cons_self (7, true)
  exact (delivered.1 .base _ rfl).2

end EventWiring
