import EventWiring.Handler.Binder

/-! Shared binders. The binder of a target type is resolved on first use and
remembered; a failure is not, so the next use resolves again. One store serves all
target types: what it has for a type is looked at again when it is taken out. -/
namespace EventWiring

/-- A remembered binder. No two have the same serial number. -/
structure SharedBinder (T A : Type) where
  serial : Nat
  binder : EventBinder T A

variable {ι : Type}

/-- A remembered binder along with its target type. -/
structure StoredBinder (T : ι → Type) (A : Type) where
  type : ι
  shared : SharedBinder (T type) A

/-- The binders that are remembered, by target type, and how many were made. -/
structure SharedBinders (T : ι → Type) (A : Type) where
  entries : List (ι × StoredBinder T A)
  made : Nat

/-- What one request for a shared binder gave. -/
structure SharedRequest (T : ι → Type) (A : Type) (type : ι) where
  binders : SharedBinders T A
  result : Except ResolveError (SharedBinder (T type) A)
  /-- Whether the model was resolved for this request. -/
  consulted : Bool
  log : List LogEntry

variable {T : ι → Type} {A : Type} [DecidableEq ι]

/-- The binder, if it is one of the given type. -/
def StoredBinder.downcast? (b : StoredBinder T A) (type : ι) : Option (SharedBinder (T type) A) :=
  if h : b.type = type then some (h ▸ b.shared) else none

namespace SharedBinders

/-- No binder was requested yet. -/
def empty : SharedBinders T A := ⟨[], 0⟩

/-- The binder of a target type that is remembered. -/
def find? (b : SharedBinders T A) (type : ι) : Option (SharedBinder (T type) A) :=
  (b.entries.lookup type).bind (·.downcast? type)

/-- Remembers a binder for a target type, unless there is one for it already. Gives
the one that is remembered. -/
def keep (b : SharedBinders T A) (type : ι) (offered : StoredBinder T A) :
    SharedBinders T A × StoredBinder T A :=
  match b.entries.lookup type with
  | some stored => (b, stored)
  | none => ({ b with entries := b.entries ++ [(type, offered)] }, offered)

/-- Requests the shared binder of a target type. -/
def request (b : SharedBinders T A) (type : ι) (model : TypeModel (T type) A) :
    SharedRequest T A type :=
  match b.find? type with
  | some shared => ⟨b, .ok shared, false, []⟩
  | none =>
    let (handlers, log) := model.resolveLogged none
    match handlers with
    | .error e => ⟨b, .error e, true, log⟩
    | .ok hs =>
      let made : SharedBinder (T type) A := ⟨b.made, ⟨model.name, hs⟩⟩
      let (kept, stored) := { b with made := b.made + 1 }.keep type ⟨type, made⟩
      ⟨kept, .ok ((stored.downcast? type).getD made), true, log⟩

/-- The binders after each of a list of types was requested once. -/
def warmed (models : List ((type : ι) × TypeModel (T type) A)) : SharedBinders T A :=
  models.foldl (fun b m => (b.request m.1 m.2).binders) empty

end SharedBinders

/-- A process: the binders that are shared throughout, and the buses. -/
structure Process (T : ι → Type) (A : Type) where
  binders : SharedBinders T A
  system : System (Callback A)

namespace Process

/-- Requests the shared binder of a target type. -/
def shared (p : Process T A) (type : ι) (model : TypeModel (T type) A) :
    Process T A × SharedRequest T A type :=
  let r := p.binders.request type model
  (⟨r.binders, p.system.report r.log⟩, r)

/-- Binds a target to a bus by the shared binder of its type. If there is none,
nothing is subscribed. -/
def bindTarget (p : Process T A) (type : ι) (model : TypeModel (T type) A) (bus : BusId)
    (target : Shared (T type)) : Process T A × Except ResolveError BindingHandle :=
  let (p, r) := p.shared type model
  match r.result with
  | .error e => (p, .error e)
  | .ok shared =>
    let (s, h) := p.system.bind bus shared.binder target
    ({ p with system := s }, .ok h)

end Process

end EventWiring
