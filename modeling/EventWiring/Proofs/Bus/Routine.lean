import EventWiring.Handler.SharedBinders
import EventWiring.Proofs.Bus.Reentrancy
import EventWiring.Proofs.Bus.Removal

/-! Routines. A routine does with buses, tokens, handles, keys and binders whatever a
program can do, and its callbacks do too. A run is recorded: which callbacks were invoked
and what was learned, in the order of time. -/
namespace EventWiring

variable {A : Type}

/-! ### What a routine does -/

/-- What a token shows of itself. -/
structure TokenView where
  key : EventKey
  id : Nat
  removed : Bool
deriving DecidableEq

def Token.view (t : Token) : TokenView := ⟨t.key, t.id, t.removed⟩

variable {ι M : Type} {T : ι → Type}

/-- What a routine does: besides requests it asks for keys, looks at tokens and handles,
and resolves binders, shared ones or its own. -/
inductive Operation (T : ι → Type) (A : Type) : Type 1 where
  | request (r : Request A)
  | keyFor (type : EventType)
  | registered (type : EventType)
  | token (place : TokenPlace)
  | handle (handle : Nat)
  | resolve (type : ι) (catalog : Option EventCatalog) (model : TypeModel (T type) A)
  | shared (type : ι) (model : TypeModel (T type) A)

/-- What a routine learns from it. -/
inductive Reply (T : ι → Type) (A : Type) where
  | answer (a : Answer A)
  | key (key : Option EventKey)
  | token (view : Option TokenView)
  | handle (views : Option (List TokenView))
  | resolved (type : ι) (result : Except ResolveError (EventBinder (T type) A))
  | shared (type : ι) (result : Except ResolveError (SharedBinder (T type) A))

/-- A routine ends, or does something and goes on as the reply tells. As with programs,
all callbacks share a memory. -/
inductive Routine (T : ι → Type) (A M : Type) : Type 1 where
  | done (memory : M)
  | ask (memory : M) (op : Operation T A) (next : Reply T A → M → Routine T A M)

/-- What each callback does with an event. -/
abbrev Routines (T : ι → Type) (A M : Type) := Callback A → Event → M → Routine T A M

/-- What happens in a run, in callbacks as well: a callback is invoked, or a routine
learns something. -/
inductive Observation (T : ι → Type) (A : Type) where
  | invoked (call : Invocation A)
  | learned (reply : Reply T A)

/-- What a run has come to outside the buses, and all that happened on the way. -/
structure Course (T : ι → Type) (A M : Type) where
  memory : M
  binders : SharedBinders T A
  record : List (Observation T A)

/-! ### Runs -/

variable [DecidableEq ι]

/-- Does one thing. -/
def Runner.perform (invoke : Runner A (Course T A M)) (w : Course T A M) (c : Client A) :
    Operation T A → Option (Course T A M × Client A × Reply T A)
  | .request r => (invoke.ask w c r).map fun x => (x.1, x.2.1, .answer x.2.2)
  | .keyFor type =>
    let (s, key) := c.system.keyFor type
    some (w, { c with system := s }, .key (some key))
  | .registered type => some (w, c, .key (c.system.registry.get? type))
  | .token place => some (w, c, .token ((c.held.at? place).map Token.view))
  | .handle handle => some (w, c, .handle (c.held.handles[handle]?.map (·.map Token.view)))
  | .resolve type catalog model =>
    let (handlers, log) := model.resolveLogged catalog
    some (w, { c with system := c.system.report log },
      .resolved type (handlers.map fun hs => ⟨model.name, hs⟩))
  | .shared type model =>
    let (p, r) := Process.shared ⟨w.binders, c.system⟩ type model
    some ({ w with binders := p.binders }, { c with system := p.system }, .shared type r.result)

/-- Runs a routine and records what it learns. -/
def Routine.run (invoke : Runner A (Course T A M)) :
    Routine T A M → Course T A M → Client A → Option (Course T A M × Client A)
  | .done m, w, c => some ({ w with memory := m }, c)
  | .ask m op next, w, c =>
    (invoke.perform { w with memory := m } c op).bind fun (w, c, a) =>
      (next a w.memory).run invoke { w with record := w.record ++ [.learned a] } c

/-- Runs callbacks, and records them, as long as publishes are nested less deep than a
bound. -/
def Routines.upTo (bodies : Routines T A M) : Nat → Runner A (Course T A M)
  | 0 => fun _ _ _ _ => none
  | depth + 1 => fun k e w c =>
    (bodies k e w.memory).run (upTo bodies depth)
      { w with record := w.record ++ [.invoked ⟨k, e⟩] } c

end EventWiring
