import EventWiring.Proofs.Declaration.Chains

/-! Stripping. Whatever is wrong with the methods of a block, the code for it holds the
block without its markers. What is wrong stands before the block, one error for each
method at fault; only if nothing is, the model of the type stands behind it. -/
namespace EventWiring

open Source

/-! ### Violations -/

namespace Source.Method

/-- What a method that has a marker must be like. -/
inductive Demand where
  | oneMarker
  | readableMarker
  | notGeneric
  | notAsync
  | sharedTarget
  | fewParams
  | someEvent
  | namedType
  | sharedEvent
deriving DecidableEq, Repr

namespace Demand

def ofMarkers : List Demand := [oneMarker, readableMarker]

def ofSignature : List Demand := [notGeneric, notAsync, sharedTarget]

def ofParams : List Demand := [fewParams, someEvent, namedType, sharedEvent]

/-- The demands in the order in which they are checked. -/
def all : List Demand := ofMarkers ++ (ofSignature ++ ofParams)

end Demand

def markers (m : Method) : List Attribute := m.attrs.filter Attribute.isMarker

/-- The events that the first marker lists, if it can be read. -/
def listed (m : Method) : List Ty :=
  match m.markers.head?.map markerOptions with
  | some (.ok options) => options.handles
  | _ => []

end Source.Method

/-! ### Checks -/

/-- A check is passed if there is no problem, and else refuses for it. -/
def Refused {α : Type} (x : Except Problem α) : Option Problem → Prop
  | some p => x = .error p
  | none => ∃ a, x = .ok a

/-- The first of two checks that refuses decides. -/
theorem Refused.bind {α β : Type} {x : Except Problem α} {f : α → Except Problem β}
    {v w : Option Problem} (hx : Refused x v) (hf : ∀ a, x = .ok a → Refused (f a) w) :
    Refused (x >>= f) (v.or w) := by
  cases v with
  | some p =>
    rw [show x = .error p from hx]
    rfl
  | none =>
    obtain ⟨a, rfl⟩ := hx
    exact hf a rfl

namespace Source.Method

variable {m : Method}

/-- A handler has one marker, and its options are those of the marker. -/
theorem marker_of_handlerOptions {options : HandlerOptions}
    (h : m.handlerOptions = .ok (some options)) :
    ∃ marker, m.markers = [marker] ∧ markerOptions marker = .ok options := by
  unfold handlerOptions at h
  rw [← markers] at h
  split at h
  · cases h
  · rename_i marker hm
    refine ⟨marker, hm, ?_⟩
    cases ho : markerOptions marker <;> simp [ho, Except.map] at h
    rw [h]
  · cases h

theorem markers_of_handlerOptions (h : m.handlerOptions = .ok none) : m.markers = [] := by
  unfold handlerOptions at h
  rw [← markers] at h
  split at h
  · assumption
  · rename_i marker hm
    cases ho : markerOptions marker <;> simp [ho, Except.map] at h
  · cases h

end Source.Method

namespace Declaration

open Method (Demand)

variable {m : Method} {options : HandlerOptions}

end Declaration

namespace Expansion

theorem ofTokens_of_ofBlock {options : BinderOptions} {block : ImplBlock} {e : Expansion}
    (h : ofBlock options block = .ok e) {attr item : List Source.Token}
    (hattr : BinderOptions.ofTokens attr = .ok options)
    (hitem : ImplBlock.ofTokens item = .ok block) : ofTokens attr item = .ok e := by
  rw [ofTokens, hattr]
  dsimp only [bind, Except.bind]
  rw [hitem]
  exact h

end Expansion

/-! ### Stripped blocks -/

end EventWiring
