import EventWiring.Handler.Model
import Mathlib.Data.List.Nodup

/-! Inheritance along a chain of models. What a type declares stands, projected
through the accessors on the way, in every model that extends it, and the methods
that are left after hiding have signatures of their own. -/
namespace EventWiring

variable {T A : Type}

/-! ### Projections -/

theorem MethodDecl.project_id (d : MethodDecl T A) : d.project id = d := by
  obtain ⟨name, declaredBy, params, annotation, invoker⟩ := d
  cases invoker <;> rfl

theorem MethodDecl.project_project {P C : Type} (d : MethodDecl T A) (f : P → T) (g : C → P) :
    (d.project f).project g = d.project (f ∘ g) := by
  simp only [project, Option.map_map]
  rfl

theorem Layer.project_id (l : Layer T A) : l.project id = l := by
  have hdeclared : l.declared.map (·.project id) = l.declared := by
    simp only [MethodDecl.project_id, List.map_id']
  rw [project, hdeclared]

theorem Layer.project_project {P C : Type} (l : Layer T A) (f : P → T) (g : C → P) :
    (l.project f).project g = l.project (f ∘ g) := by
  simp only [project, List.map_map]
  refine congrArg _ (List.map_congr_left fun d _ => d.project_project f g)

/-! ### Chains -/

namespace TypeModel

/-- A type extends another through an accessor: above its own layer it has the
layers of the other. -/
def Extends {P : Type} (m : TypeModel T A) (parent : TypeModel P A) (accessor : T → P) : Prop :=
  m.ancestors = parent.lineage.map (·.project accessor)

theorem extends_extending {P : Type} (m : TypeModel T A) (parent : TypeModel P A)
    (accessor : T → P) : (m.extending parent accessor).Extends parent accessor := rfl

/-- Declaring further methods leaves what a type extends. -/
theorem Extends.method {P : Type} {m : TypeModel T A} {parent : TypeModel P A} {accessor : T → P}
    (h : m.Extends parent accessor) (d : MethodDecl T A) :
    (m.method d).Extends parent accessor := h

/-- A type is another, or inherits from it through the accessors on the way,
composed. -/
inductive Inherits {A : Type} : {T P : Type} → TypeModel T A → TypeModel P A → (T → P) → Prop where
  | own {T : Type} (m : TypeModel T A) : Inherits m m id
  | parent {T Q P : Type} {m : TypeModel T A} {q : TypeModel Q A} {p : TypeModel P A}
    {accessor : T → Q} {f : Q → P} (step : m.Extends q accessor) (rest : Inherits q p f) :
    Inherits m p (f ∘ accessor)

theorem Inherits.mem_lineage {P : Type} {m : TypeModel T A} {p : TypeModel P A} {f : T → P}
    (h : m.Inherits p f) : p.own.project f ∈ m.lineage := by
  induction h with
  | own m =>
    rw [Layer.project_id]
    exact List.mem_cons_self
  | parent step _ ih =>
    refine List.mem_cons_of_mem _ ?_
    rw [step, ← Layer.project_project]
    exact List.mem_map_of_mem ih

/-- What an ancestor declares is among the declarations of the type. -/
theorem Inherits.mem_declarations {P : Type} {m : TypeModel T A} {p : TypeModel P A} {f : T → P}
    (h : m.Inherits p f) {d : MethodDecl P A} (hd : d ∈ p.own.declared) :
    d.project f ∈ m.declarations :=
  List.mem_flatMap.mpr ⟨_, h.mem_lineage, List.mem_map_of_mem hd⟩

end TypeModel

/-! ### Hiding -/

theorem signature_not_mem_seen {seen : List MethodSignature} {ds : List (MethodDecl T A)}
    {d : MethodDecl T A} (hd : d ∈ firstBySignature seen ds) : d.signature ∉ seen := by
  induction ds generalizing seen with
  | nil => cases hd
  | cons d' rest ih =>
    rw [firstBySignature] at hd
    split at hd
    · exact ih hd
    · rename_i hnew
      rcases List.mem_cons.mp hd with rfl | hd
      · exact hnew
      · exact fun hmem => ih hd (List.mem_cons_of_mem _ hmem)

/-- No two methods that are left have one signature. -/
theorem pairwise_signature_ne (seen : List MethodSignature) (ds : List (MethodDecl T A)) :
    (firstBySignature seen ds).Pairwise fun d d' => d.signature ≠ d'.signature := by
  induction ds generalizing seen with
  | nil => exact .nil
  | cons d rest ih =>
    rw [firstBySignature]
    split
    · exact ih seen
    · refine .cons (fun d' hd' he => ?_) (ih _)
      exact signature_not_mem_seen hd' (he ▸ List.mem_cons_self)

theorem TypeModel.eq_of_signature {m : TypeModel T A} {d d' : MethodDecl T A}
    (hd : d ∈ m.inheritable) (hd' : d' ∈ m.inheritable) (he : d.signature = d'.signature) :
    d = d' := by
  have hnodup : (m.inheritable.map MethodDecl.signature).Nodup :=
    List.pairwise_map.mpr (pairwise_signature_ne [] m.declarations)
  exact List.inj_on_of_nodup_map hnodup hd hd' he

end EventWiring
