import EventWiring.Handler.Method
import EventWiring.Proofs.Declaration.Emission

/-! What the code of a declaration builds when it runs. The code is a chain of calls
on a new declaration; with what the types and methods in it stand for, each call is a
step of building. -/
namespace EventWiring

open Source

/-- The type that a reference refers to. -/
def Source.Ty.referent? : Ty → Option Ty
  | reference _ _ elem => some elem
  | _ => none

namespace Shape

/-- The type of the event itself. -/
def elem? : Shape → Option Ty
  | alone => none
  | event _ elem => some elem

theorem elem?_of_ofType? {t : Ty} {shape : Shape} (h : ofType? t = some shape) :
    ∃ elem, shape.elem? = some elem ∧ t.referent? = some elem := by
  unfold ofType? at h
  split at h
  · split at h
    · cases h
    · cases h
      exact ⟨_, rfl, rfl⟩
  · cases h

end Shape

/-! ### Meanings -/

/-- What the code of a block refers to: the event type that a type is, the name that
a type has when the code runs, and the methods of the target. -/
structure Meaning (T A : Type) where
  event : Ty → EventType
  typeName : Ty → String
  /-- Calls a method with a target, and with an event if it takes one. -/
  invoke : String → T → Option Event → A

variable {T A : Type}

namespace Meaning

/-- The step that a call stands for. -/
def step (μ : Meaning T A) (method : String) : BuilderCall → MethodDecl.Step T A
  | .annotated handles => .annotated ⟨handles.map fun t => .type (μ.event t)⟩
  | .paramOpaque written => .param (.foreign (μ.typeName written))
  | .handlesEvent elem =>
    .handlesEvent (μ.event elem) fun target e => μ.invoke method target (some e)
  | .handlesNone => .handlesNone fun target => μ.invoke method target none

/-- What the code of a declaration builds. -/
def declare (μ : Meaning T A) (d : Declaration) : MethodDecl T A :=
  .build d.name (d.calls.map (μ.step d.name))

variable (μ : Meaning T A) (d : Declaration)

@[simp] theorem name_declare : (μ.declare d).name = d.name := by
  obtain ⟨name, shape, _ | _ | ⟨t, ts⟩⟩ := d <;> cases shape <;> rfl

/-- What is built is marked if the method is, with the list that it has. -/
@[simp] theorem annotation_declare :
    MethodDecl.annotation (μ.declare d) =
      d.handles.map fun handles => ⟨handles.map fun t => .type (μ.event t)⟩ := by
  obtain ⟨name, shape, _ | _ | ⟨t, ts⟩⟩ := d <;> cases shape <;> rfl

/-- A handler takes an event, and any other method a type of which only the name
counts. -/
theorem params_declare :
    (μ.declare d).params =
      if d.isHandler then d.shape.elem?.toList.map fun t => .event (μ.event t)
      else d.shape.written.toList.map fun t => .foreign (μ.typeName t) := by
  obtain ⟨name, shape, _ | _ | ⟨t, ts⟩⟩ := d <;> cases shape <;> rfl

theorem isSome_invoker_declare : (μ.declare d).invoker.isSome = d.isHandler := by
  obtain ⟨name, shape, _ | _ | ⟨t, ts⟩⟩ := d <;> cases shape <;> rfl

end Meaning

end EventWiring
