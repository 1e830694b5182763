import EventWiring.Proofs.Handler.Overriding
import EventWiring.Proofs.Handler.Resolution

/-! Inheriting by projection. Above its own declarations a type has the methods of
the type it extends, less those it declares itself, and each of them acts on the
value that the accessor reaches. This composes: along a chain of any length, the
method of an ancestor acts on what the accessors reach one after the other, and
resolving what is projected gives what the ancestor resolves to, projected. -/
namespace EventWiring

variable {T A P C : Type}

/-! ### Projected methods -/

/-- A method is another's on targets that embed the other's target: it is declared
alike in all respects, and its invoker hands on what the accessor reaches. -/
structure MethodDecl.Embeds (d' : MethodDecl C A) (d : MethodDecl T A) (accessor : C → T) :
    Prop where
  name : d'.name = d.name
  declaredBy : d'.declaredBy = d.declaredBy
  params : d'.params = d.params
  annotation : d'.annotation = d.annotation
  runs : d'.invoker.isSome = d.invoker.isSome
  acts : ∀ run run', d.invoker = some run → d'.invoker = some run' →
    ∀ c e, run' c e = run (accessor c) e

theorem MethodDecl.project_embeds (d : MethodDecl T A) (accessor : C → T) :
    (d.project accessor).Embeds d accessor := by
  refine ⟨rfl, rfl, rfl, rfl, Option.isSome_map, fun run run' hrun hrun' c e => ?_⟩
  rw [project, hrun, Option.map_some] at hrun'
  cases hrun'
  rfl

@[simp] theorem MethodDecl.signature_project (d : MethodDecl T A) (accessor : C → T) :
    (d.project accessor).signature = d.signature := rfl

/-- A descriptor on targets that embed the handler's target. -/
def HandlerDescriptor.project (h : HandlerDescriptor T A) (accessor : C → T) :
    HandlerDescriptor C A :=
  { h with invoker := fun c e => h.invoker (accessor c) e }

/-- A model on targets that embed the model's target. -/
def TypeModel.project (m : TypeModel T A) (accessor : C → T) : TypeModel C A :=
  ⟨m.own.project accessor, m.ancestors.map (·.project accessor)⟩

/-! ### Hiding and projecting -/

/-- More that was seen only takes methods away. -/
theorem firstBySignature_seen_append (more seen : List MethodSignature)
    (ds : List (MethodDecl T A)) :
    firstBySignature (more ++ seen) ds =
      (firstBySignature seen ds).filter (·.signature ∉ more) := by
  induction ds generalizing seen with
  | nil => rfl
  | cons d rest ih =>
    have hmiddle : firstBySignature (d.signature :: (more ++ seen)) rest =
        firstBySignature (more ++ d.signature :: seen) rest := by
      refine firstBySignature_congr (fun s => ?_) rest
      simp only [List.mem_cons, List.mem_append]
      exact or_left_comm
    by_cases hseen : d.signature ∈ seen
    · rw [firstBySignature, firstBySignature, if_pos hseen,
        if_pos (List.mem_append_right more hseen)]
      exact ih seen
    · rw [firstBySignature, firstBySignature, if_neg hseen, List.filter_cons]
      by_cases hmore : d.signature ∈ more
      · -- seen only now: `d` itself goes, and what follows it goes by the longer list
        rw [if_pos (List.mem_append_left seen hmore), if_neg (by simpa using hmore), ← ih]
        refine firstBySignature_congr (fun s => ?_) rest
        simp only [List.mem_cons, List.mem_append]
        constructor
        · exact fun hs => hs.imp_right .inr
        · rintro (hs | rfl | hs)
          · exact .inl hs
          · exact .inl hmore
          · exact .inr hs
      · have hnew : d.signature ∉ more ++ seen :=
          fun hs => (List.mem_append.mp hs).elim hmore hseen
        rw [if_neg hnew, if_pos (by simpa using hmore), hmiddle, ih]

/-! ### Resolving -/

namespace Resolution

variable {catalog : Option EventCatalog}

theorem describe_project (d : MethodDecl T A) (a : Annotation) (accessor : C → T) :
    describe catalog (d.project accessor) a =
      (describe catalog d a).map (·.project accessor) := by
  obtain ⟨name, declaredBy, params, annotation, invoker⟩ := d
  unfold describe MethodDecl.project
  dsimp only
  cases handledTypes catalog a params with
  | error fault => rfl
  | ok types => cases invoker <;> rfl

theorem describeAll_project (ds : List (MethodDecl T A)) (accessor : C → T) :
    describeAll catalog (ds.map (·.project accessor)) =
      (describeAll catalog ds).map (List.map (·.project accessor)) := by
  induction ds with
  | nil => rfl
  | cons d rest ih =>
    have hannotation : MethodDecl.annotation (d.project accessor) = d.annotation := rfl
    rw [List.map_cons, describeAll, describeAll, hannotation]
    cases d.annotation with
    | none => exact ih
    | some a =>
      dsimp only
      rw [describe_project]
      cases describe catalog d a with
      | error fault => rfl
      | ok h =>
        rw [ih]
        cases describeAll catalog rest <;> rfl

end Resolution

/-! ### Models -/

namespace TypeModel

theorem declarations_project (m : TypeModel T A) (accessor : C → T) :
    (m.project accessor).declarations = m.declarations.map (·.project accessor) := by
  simp only [declarations, lineage, project, Layer.project, List.flatMap_cons, List.flatMap_map,
    List.map_append, List.map_flatMap]

theorem inheritable_project (m : TypeModel T A) (accessor : C → T) :
    (m.project accessor).inheritable = m.inheritable.map (·.project accessor) := by
  rw [inheritable, declarations_project, firstBySignature_map (·.signature_project accessor),
    inheritable]

theorem resolve_project (catalog : Option EventCatalog) (m : TypeModel T A) (accessor : C → T) :
    (m.project accessor).resolve catalog =
      (m.resolve catalog).map (List.map (·.project accessor)) := by
  rw [resolve, inheritable_project, Resolution.describeAll_project, resolve]

theorem Extends.parent?_eq {m : TypeModel T A} {parent : TypeModel P A} {accessor : T → P}
    (h : m.Extends parent accessor) : m.parent? = some (parent.project accessor) := by
  rw [parent?, h]
  rfl

theorem Extends.declarations_eq {m : TypeModel T A} {parent : TypeModel P A} {accessor : T → P}
    (h : m.Extends parent accessor) :
    m.declarations = m.own.declared ++ parent.declarations.map (·.project accessor) := by
  rw [← declarations_project, declarations, lineage, List.flatMap_cons, h]
  rfl

/-- An ancestor's declarations come last, projected, after those of the types on the
way to it. -/
theorem Inherits.declarations_eq {m : TypeModel T A} {p : TypeModel P A} {f : T → P}
    (h : m.Inherits p f) :
    ∃ nearer, m.declarations = nearer ++ p.declarations.map (·.project f) := by
  -- from the ancestor down: each type puts its own declarations before, and projects the rest
  induction h with
  | own m =>
    refine ⟨[], ?_⟩
    simp only [MethodDecl.project_id, List.map_id', List.nil_append]
  | @parent T Q P m q p accessor f step _ ih =>
    obtain ⟨nearer, hnearer⟩ := ih
    refine ⟨m.own.declared ++ nearer.map (·.project accessor), ?_⟩
    rw [step.declarations_eq, hnearer, List.map_append, List.map_map, List.append_assoc]
    refine congrArg _ (congrArg _ (List.map_congr_left fun d _ => ?_))
    exact d.project_project f accessor

/-- What is inherited from an ancestor: the methods that it has, less those that are
declared nearer. -/
theorem inheritable_of_declarations {m : TypeModel T A} {p : TypeModel P A} {f : T → P}
    {nearer : List (MethodDecl T A)}
    (h : m.declarations = nearer ++ p.declarations.map (·.project f)) :
    ∃ inherited, m.inheritable = firstBySignature [] nearer ++ inherited ∧
      List.Forall₂ (·.Embeds · f) inherited
        (p.inheritable.filter (·.signature ∉ nearer.map MethodDecl.signature)) := by
  refine ⟨(p.inheritable.filter (·.signature ∉ nearer.map MethodDecl.signature)).map
    (·.project f), ?_, ?_⟩
  · rw [inheritable, h, firstBySignature_append, firstBySignature_seen_append,
      firstBySignature_map (·.signature_project f), List.filter_map]
    rfl
  · rw [List.forall₂_map_left_iff]
    exact List.forall₂_same.mpr fun d _ => d.project_embeds f

/-- A type has its own methods, the first of each signature, and after them those of
the type it extends that it does not declare itself, in their order. An inherited
method is as its parent declares it, and acts on what the accessor reaches. Of any
ancestor above that the same holds for what the accessors on the way reach one after
the other. The parent as the type has it resolves as the parent does: to the same
error, or to the same descriptors with invokers that go through the accessor. -/
theorem Extends.inheritable_eq_own_append {child : TypeModel T A} {parent : TypeModel P A}
    {accessor : T → P} (h : child.Extends parent accessor) :
    (∃ inherited, child.inheritable = firstBySignature [] child.own.declared ++ inherited ∧
      List.Forall₂ (·.Embeds · accessor) inherited
        (parent.inheritable.filter
          (·.signature ∉ child.own.declared.map MethodDecl.signature))) ∧
    (∀ {Q : Type} {ancestor : TypeModel Q A} {f : P → Q}, parent.Inherits ancestor f →
      ∃ nearer inherited,
        child.declarations = nearer ++ ancestor.declarations.map (·.project (f ∘ accessor)) ∧
        child.inheritable = firstBySignature [] nearer ++ inherited ∧
        List.Forall₂ (·.Embeds · (f ∘ accessor)) inherited
          (ancestor.inheritable.filter (·.signature ∉ nearer.map MethodDecl.signature))) ∧
    ∃ projected, child.parent? = some projected ∧
      ∀ catalog, projected.resolve catalog =
        (parent.resolve catalog).map (List.map (·.project accessor)) := by
  refine ⟨?_, ?_, parent.project accessor, h.parent?_eq, fun catalog => ?_⟩
  · exact inheritable_of_declarations h.declarations_eq
  · intro Q ancestor f hancestor
    obtain ⟨nearer, hnearer⟩ := (Inherits.parent h hancestor).declarations_eq
    obtain ⟨inherited, hinherited⟩ := inheritable_of_declarations hnearer
    exact ⟨nearer, inherited, hnearer, hinherited⟩
  · exact resolve_project catalog parent accessor

/-- A window extends a panel, and that a counter. The window hides one of the
counter's two handlers; the other runs on the counter of the window's panel. -/
theorem inheritable_eq_own_append_two_levels :
    let count : MethodDecl Nat Nat := .build "on_count" [.handlesNone (· + 1)]
    let counter := ((new "Counter").method (.build "on_reset" [.handlesNone id])).method count
    let panel : TypeModel (Nat × Bool) Nat :=
      ((new "Panel").method (.new "on_open")).extending counter Prod.fst
    let window : TypeModel (String × Nat × Bool) Nat :=
      ((new "Window").method (.new "on_reset")).extending panel Prod.snd
    window.Extends panel Prod.snd ∧ panel.Inherits counter Prod.fst ∧
      window.inheritable.map (fun d => (d.declaredBy, d.name)) =
        [("Window", "on_reset"), ("Panel", "on_open"), ("Counter", "on_count")] ∧
      ∃ d ∈ window.inheritable, d.name = "on_count" ∧
        d.Embeds { count with declaredBy := "Counter" } (Prod.fst ∘ Prod.snd) := by
  intro count counter panel window
  have hpanel : panel.Extends counter Prod.fst := extends_extending ..
  have hwindow : window.Extends panel Prod.snd := extends_extending ..
  have hcounter : panel.Inherits counter (id ∘ Prod.fst) := .parent hpanel (.own counter)
  obtain ⟨-, habove, -⟩ := hwindow.inheritable_eq_own_append
  obtain ⟨nearer, inherited, hdeclarations, hinheritable, hembeds⟩ := habove hcounter
  have hnearer : nearer.map MethodDecl.signature = [⟨"on_reset", []⟩, ⟨"on_open", []⟩] := by
    have hsignatures := congrArg (List.map MethodDecl.signature) hdeclarations
    rw [List.map_append] at hsignatures
    exact (List.append_cancel_right hsignatures).symm
  have hkept : counter.inheritable.filter (·.signature ∉ nearer.map MethodDecl.signature) =
      [{ count with declaredBy := "Counter" }] := by
    rw [hnearer]
    rfl
  obtain ⟨d, hd, hcount⟩ := exists_mem_of_forall₂ hembeds (hkept ▸ List.mem_singleton_self _)
  refine ⟨hwindow, hcounter, rfl, d, ?_, hcount.name, hcount⟩
  rw [hinheritable]
  exact List.mem_append_right _ hd

end TypeModel

end EventWiring
