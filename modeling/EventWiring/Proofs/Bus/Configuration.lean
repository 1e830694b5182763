import EventWiring.Proofs.Bus.Routine
import EventWiring.Proofs.Bus.Silence

/-! Configuration is observation. What a program learns from its buses, and what it
comes to, does not depend on how they are configured: it does the same with buses that
are silent. Only the log lines of buses do depend on it. -/
namespace EventWiring

open Answer (given)

variable {A : Type}

/-! ### Clients -/

namespace Holdings

variable (h : Holdings Token)

def silenced : Holdings Token :=
  { h with
    tokens := h.tokens.map (·.map Token.silenced)
    handles := h.handles.map (·.map Token.silenced) }

theorem token?_silenced (token : Nat) :
    h.silenced.token? token = (h.token? token).map Token.silenced := by
  unfold token? silenced
  rw [List.getElem?_map]
  cases h.tokens[token]? <;> rfl

theorem handle?_silenced (handle : Nat) :
    h.silenced.handles[handle]? = h.handles[handle]?.map (·.map Token.silenced) := by
  simp [silenced]

theorem heldToken?_silenced (handle place : Nat) :
    h.silenced.heldToken? handle place = (h.heldToken? handle place).map Token.silenced := by
  unfold heldToken?
  rw [handle?_silenced]
  cases h.handles[handle]? with
  | none => rfl
  | some ts => simp

theorem at?_silenced (p : TokenPlace) : h.silenced.at? p = (h.at? p).map Token.silenced := by
  cases p with
  | loose token => exact h.token?_silenced token
  | held handle place => exact h.heldToken?_silenced handle place

theorem addToken_silenced (t : Token) :
    h.silenced.addToken t.silenced = (h.addToken t).silenced := by
  simp [addToken, silenced]

theorem setToken_silenced (token : Nat) (t : Token) :
    h.silenced.setToken token t.silenced = (h.setToken token t).silenced := by
  simp [setToken, silenced, List.map_set]

theorem addHandle_silenced (ts : List Token) :
    h.silenced.addHandle (ts.map Token.silenced) = (h.addHandle ts).silenced := by
  simp [addHandle, silenced]

theorem setHandle_silenced (handle : Nat) (ts : List Token) :
    h.silenced.setHandle handle (ts.map Token.silenced) = (h.setHandle handle ts).silenced := by
  simp [setHandle, silenced, List.map_set]

theorem moveToken_silenced (token handle : Nat) (t : Token) (ts : List Token) :
    h.silenced.moveToken token handle t.silenced (ts.map Token.silenced) =
      (h.moveToken token handle t ts).silenced := by
  simp [moveToken, silenced, List.map_set]

end Holdings

/-- The request with the configuration of a new bus, if it opens one, silent. -/
def Request.silenced : Request A → Request A
  | .openBus _ => .openBus .silent
  | r => r

theorem Request.isPublish_silenced (r : Request A) : r.silenced.isPublish = r.isPublish := by
  cases r <;> rfl

namespace Client

variable (c : Client A)

def silenced : Client A := ⟨c.held.silenced, c.system.silenced⟩

/-- An answer that silencing does not change. -/
def quiet (x : Client A × Answer A) : Client A × Answer A := (x.1.silenced, x.2)

theorem given_silenced {N N' : Type} {name : Option N} {name' : Option N'} {g : N → N'}
    (hname : name' = name.map g) {f : N → Client A × Answer A} {f' : N' → Client A × Answer A}
    (hf : ∀ n, f' (g n) = quiet (f n)) :
    given c.silenced name' f' = quiet (given c name f) := by
  subst hname
  cases name with
  | none => rfl
  | some n => exact hf n

/-- A name of a bus stands for the same bus. -/
theorem given_bus_silenced (bus : Nat) {f f' : BusId → Client A × Answer A}
    (hf : ∀ id, f' id = quiet (f id)) :
    given c.silenced (c.silenced.held.bus? bus) f' = quiet (given c (c.held.bus? bus) f) :=
  c.given_silenced (congrFun Option.map_id _).symm hf

theorem step_silenced {r : Request A} (plain : r.isPublish = false) :
    c.silenced.step idle r.silenced = quiet (c.step idle r) := by
  cases r with
  | openBus config =>
    dsimp only [step, Request.silenced, silenced, quiet]
    rw [System.openBus_silenced _ config]
    rfl
  | cloneBus bus => exact c.given_bus_silenced _ fun id => rfl
  | dropBus bus =>
    refine c.given_bus_silenced _ fun id => ?_
    dsimp only [silenced, quiet]
    rw [System.dropBus_silenced, ← apply_ite System.silenced]
    rfl
  | subscribe bus type body =>
    refine c.given_bus_silenced _ fun id => ?_
    dsimp only [silenced, quiet]
    rw [System.keyFor_silenced, System.subscribe_silenced, Holdings.addToken_silenced]
  | subscribeKey bus key callback =>
    refine c.given_bus_silenced _ fun id => ?_
    dsimp only [silenced, quiet]
    rw [System.subscribe_silenced, Holdings.addToken_silenced]
  | bind bus binder target =>
    refine c.given_bus_silenced _ fun id => ?_
    dsimp only [silenced, quiet]
    rw [System.bind_silenced, Holdings.addHandle_silenced]
  | remove token =>
    refine c.given_silenced (c.held.token?_silenced token) fun t => ?_
    dsimp only [silenced, quiet]
    rw [System.remove_silenced, Holdings.setToken_silenced]
  | openHandle =>
    dsimp only [step, Request.silenced, silenced, quiet, BindingHandle.empty]
    rw [← Holdings.addHandle_silenced]
    rfl
  | push token handle =>
    refine c.given_silenced (c.held.token?_silenced token) fun t => ?_
    refine c.given_silenced (c.held.handle?_silenced handle) fun ts => ?_
    dsimp only [silenced, quiet]
    rw [Holdings.moveToken_silenced]
  | removeHeld handle place =>
    refine c.given_silenced (c.held.heldToken?_silenced handle place) fun t => ?_
    refine c.given_silenced (c.held.handle?_silenced handle) fun ts => ?_
    dsimp only [silenced, quiet]
    rw [System.remove_silenced, ← List.map_set, Holdings.setHandle_silenced]
  | unbind handle =>
    refine c.given_silenced (c.held.handle?_silenced handle) fun ts => ?_
    dsimp only [silenced, quiet]
    rw [System.unbind_silenced, Holdings.setHandle_silenced]
  | unsubscribeAll bus type =>
    refine c.given_bus_silenced _ fun id => ?_
    dsimp only [silenced, quiet]
    rw [System.unsubscribeAll_silenced]
  | clear bus =>
    refine c.given_bus_silenced _ fun id => ?_
    dsimp only [silenced, quiet]
    rw [System.clear_silenced]
  | count bus type =>
    refine c.given_bus_silenced _ fun id => ?_
    dsimp only [silenced, quiet]
    rw [System.count_silenced]
  | total bus =>
    refine c.given_bus_silenced _ fun id => ?_
    dsimp only [silenced, quiet]
    rw [System.total_silenced]
  | publish bus e => cases plain

end Client

/-! ### Callbacks -/

namespace Runner

variable {M : Type} {invoke invoke' : Runner A M}

/-- One runner does to silenced programs what the other does to programs. -/
def Silences (invoke invoke' : Runner A M) : Prop :=
  ∀ k e m c, invoke' k e m c.silenced = (invoke k e m c).map fun x => (x.1, x.2.silenced)

theorem Silences.deliver (h : Silences invoke invoke') (e : Event) (ks : List (Callback A)) (m : M)
    (held : Holdings Token) (calls : List (Invocation A)) (s : System (Callback A)) :
    let w := invoke.deliver e ks (some (m, held, calls), s)
    invoke'.deliver e ks (some (m, held.silenced, calls), s.silenced) =
      (w.1.map fun x => (x.1, x.2.1.silenced, x.2.2), w.2.silenced) := by
  induction ks generalizing m held calls s with
  | nil => rfl
  | cons k rest ih =>
    have hk := h k e m ⟨held, s⟩
    cases hrun : invoke k e m ⟨held, s⟩ with
    | none =>
      rw [hrun] at hk
      rw [invoke.deliver_cons_none rest hrun, invoke'.deliver_cons_none rest hk]
      rfl
    | some x =>
      rw [hrun] at hk
      rw [invoke.deliver_cons rest hrun, invoke'.deliver_cons rest hk]
      exact ih ..

theorem Silences.publish (h : Silences invoke invoke') (id : BusId) (e : Event) (m : M)
    (c : Client A) :
    invoke'.publish id e m c.silenced =
      (invoke.publish id e m c).map fun x => (x.1, x.2.1.silenced, x.2.2) := by
  rw [publish_eq, publish_eq]
  dsimp only [Client.silenced]
  rw [System.subscribersOf_silenced, System.beginPublish_silenced, h.deliver]
  generalize invoke.deliver e ((c.system.subscribersOf id e).map (·.callback))
    (some (m, c.held, []), (c.system.beginPublish id e).1) = w
  obtain ⟨x, s⟩ := w
  cases x with
  | none => rfl
  | some x =>
    dsimp only [Option.map_some, Client.silenced]
    rw [System.endPublish_silenced, ← apply_ite System.silenced]

theorem Silences.ask (h : Silences invoke invoke') (m : M) (c : Client A) (r : Request A) :
    invoke'.ask m c.silenced r.silenced =
      (invoke.ask m c r).map fun x => (x.1, x.2.1.silenced, x.2.2) := by
  cases hr : r.isPublish with
  | false =>
    rw [ask_of_plain _ m c hr, ask_of_plain _ m _ (r.isPublish_silenced.trans hr),
      c.step_silenced hr]
    rfl
  | true =>
    obtain ⟨bus, e, rfl⟩ := r.eq_publish hr
    show invoke'.ask m c.silenced (.publish bus e) = _
    rw [Runner.ask, Runner.ask, show c.silenced.held.bus? bus = c.held.bus? bus from rfl]
    cases c.held.bus? bus with
    | none => rfl
    | some id =>
      dsimp only
      rw [h.publish]
      cases invoke.publish id e m c <;> rfl

end Runner

/-! ### Routines -/

@[simp] theorem Token.view_silenced (t : Token) : t.silenced.view = t.view := rfl

variable {ι M : Type} {T : ι → Type}

def Operation.silenced : Operation T A → Operation T A
  | .request r => .request r.silenced
  | op => op

/-- The routine with every bus that it opens silent. -/
def Routine.silenced : Routine T A M → Routine T A M
  | .done m => .done m
  | .ask m op next => .ask m op.silenced fun a m => (next a m).silenced

def Routines.silenced (bodies : Routines T A M) : Routines T A M :=
  fun k e m => (bodies k e m).silenced

/-- What a resolution logs is not of a bus. -/
theorem TypeModel.filter_resolveLogged {S : Type} (catalog : Option EventCatalog)
    (model : TypeModel S A) :
    (model.resolveLogged catalog).2.filter (!·.isOfBus) = (model.resolveLogged catalog).2 := by
  unfold resolveLogged
  dsimp only
  cases model.resolve catalog <;> rfl

variable [DecidableEq ι]

/-- A request for a shared binder logs its resolution, or nothing. -/
theorem SharedBinders.log_request (b : SharedBinders T A) (type : ι)
    (model : TypeModel (T type) A) :
    (b.request type model).log = [] ∨
      (b.request type model).log = (model.resolveLogged none).2 := by
  unfold request
  split
  · exact .inl rfl
  · dsimp only
    split <;> exact .inr rfl

theorem SharedBinders.filter_request (b : SharedBinders T A) (type : ι)
    (model : TypeModel (T type) A) :
    (b.request type model).log.filter (!·.isOfBus) = (b.request type model).log := by
  rcases b.log_request type model with h | h
  · rw [h, List.filter_nil]
  · rw [h, model.filter_resolveLogged none]

namespace Runner

variable {invoke invoke' : Runner A (Course T A M)}

theorem Silences.perform (h : Silences invoke invoke') (w : Course T A M) (c : Client A)
    (op : Operation T A) :
    invoke'.perform w c.silenced op.silenced =
      (invoke.perform w c op).map fun x => (x.1, x.2.1.silenced, x.2.2) := by
  cases op with
  | request r =>
    dsimp only [Operation.silenced, Runner.perform]
    rw [h.ask]
    cases invoke.ask w c r <;> rfl
  | keyFor type =>
    dsimp only [Operation.silenced, Runner.perform, Client.silenced]
    rw [System.keyFor_silenced]
    rfl
  | registered type => rfl
  | token place =>
    dsimp only [Operation.silenced, Runner.perform, Client.silenced]
    rw [Holdings.at?_silenced]
    cases c.held.at? place <;> rfl
  | handle handle =>
    dsimp only [Operation.silenced, Runner.perform, Client.silenced]
    rw [Holdings.handle?_silenced]
    cases c.held.handles[handle]? with
    | none => rfl
    | some ts => simp [Function.comp_def]
  | resolve type catalog model =>
    dsimp only [Operation.silenced, Runner.perform, Client.silenced]
    rw [← System.silenced_report _ (model.filter_resolveLogged catalog)]
    rfl
  | shared type model =>
    dsimp only [Operation.silenced, Runner.perform, Client.silenced, Process.shared]
    rw [← System.silenced_report _ (w.binders.filter_request type model)]
    rfl

end Runner

theorem Routine.run_silenced {invoke invoke' : Runner A (Course T A M)}
    (h : invoke.Silences invoke') (p : Routine T A M) (w : Course T A M) (c : Client A) :
    p.silenced.run invoke' w c.silenced =
      (p.run invoke w c).map fun x => (x.1, x.2.silenced) := by
  induction p generalizing w c with
  | done m => rfl
  | ask m op next ih =>
    rw [silenced, run, run, h.perform]
    cases invoke.perform { w with memory := m } c op with
    | none => rfl
    | some x => exact ih ..

/-- Callbacks of any depth do the same when they and the buses are silent. -/
theorem Routines.silences_upTo (bodies : Routines T A M) (depth : Nat) :
    (bodies.upTo depth).Silences (bodies.silenced.upTo depth) := by
  induction depth with
  | zero => exact fun k e w c => rfl
  | succ depth ih => exact fun k e w c => (bodies k e w.memory).run_silenced ih _ c

/-! ### The law of configuration -/

theorem rel_of_map_eq {α β : Type} {f : α → β} {x y : Option α} (h : x.map f = y.map f) :
    Option.Rel (fun a b => f a = f b) x y := by
  cases x with
  | none =>
    cases y with
    | none => exact .none
    | some b => cases h
  | some a =>
    cases y with
    | none => cases h
    | some b => exact .some (Option.some.inj h)

/-- States that cannot be told apart: the same names of buses, tokens and handles that
show the same, the same keys, tables, next numbers and running publishes, and the same
log without the lines of buses. -/
structure Client.SameBut (c d : Client A) : Prop where
  buses : c.held.buses = d.held.buses
  tokens : c.held.tokens.map (·.map Token.view) = d.held.tokens.map (·.map Token.view)
  handles : c.held.handles.map (·.map Token.view) = d.held.handles.map (·.map Token.view)
  registry : c.system.registry = d.system.registry
  tables : c.system.buses.map (·.map fun b => (b.table, b.nextId)) =
    d.system.buses.map (·.map fun b => (b.table, b.nextId))
  running : c.system.running = d.system.running
  log : c.system.log.filter (!·.isOfBus) = d.system.log.filter (!·.isOfBus)

/-- Silencing takes away no more than that. -/
theorem Client.SameBut.of_silenced {c d : Client A} (h : c.silenced = d.silenced) :
    c.SameBut d where
  buses := congrArg (·.held.buses) h
  tokens := by
    have ht := congrArg (·.held.tokens.map (·.map Token.view)) h
    simpa [Client.silenced, Holdings.silenced, Function.comp_def] using ht
  handles := by
    have hh := congrArg (·.held.handles.map (·.map Token.view)) h
    simpa [Client.silenced, Holdings.silenced, Function.comp_def] using hh
  registry := congrArg (·.system.registry) h
  tables := by
    have hb := congrArg (·.system.buses.map (·.map fun b => (b.table, b.nextId))) h
    simpa [Client.silenced, System.silenced, Function.comp_def, Bus.silenced] using hb
  running := congrArg (·.system.running) h
  log := congrArg (·.system.log) h

/-- Two programs are the same but for the configurations of the buses that they and
their callbacks open. However deep their publishes nest, both come to an end or neither
does. If they do, the same callbacks were invoked in the same order, every reply was the
same, and the states cannot be told apart. Where the buses of one of them are all
silent, its log is that of the other without the lines of buses. -/
theorem configuration_is_observation (registry : KeyRegistry) {p p' : Routine T A M}
    {bodies bodies' : Routines T A M} (same : p.silenced = p'.silenced)
    (alike : bodies.silenced = bodies'.silenced) (w : Course T A M) (depth : Nat) :
    let out := p.run (bodies.upTo depth) w (.start registry)
    let out' := p'.run (bodies'.upTo depth) w (.start registry)
    Option.Rel (fun x y => x.1 = y.1 ∧ x.2.SameBut y.2) out out' ∧
      (p'.silenced = p' → bodies'.silenced = bodies' → ∀ x y, out = some x → out' = some y →
        y.2.system.log = x.2.system.log.filter (!·.isOfBus)) := by
  intro out out'
  have hout := p.run_silenced (bodies.silences_upTo depth) w (.start registry)
  have hout' := p'.run_silenced (bodies'.silences_upTo depth) w (.start registry)
  -- both runs, silenced, are the run of the one silent program
  have hboth : out.map (fun x => (x.1, x.2.silenced)) = out'.map fun x => (x.1, x.2.silenced) := by
    rw [← hout, ← hout', same, alike]
  constructor
  · refine rel_imp (fun x y hxy => ?_) (rel_of_map_eq hboth)
    obtain ⟨hcourse, hclient⟩ := Prod.mk.inj hxy
    exact ⟨hcourse, .of_silenced hclient⟩
  · intro silent quiet x y hx hy
    rw [silent, quiet] at hout'
    replace hout' : out' = out'.map fun x => (x.1, x.2.silenced) := hout'
    rw [hx, hy] at hboth
    rw [hy] at hout'
    have hclient := (Prod.mk.inj (Option.some.inj hboth)).2
    have hself := (Prod.mk.inj (Option.some.inj hout')).2
    rw [hself, ← hclient]
    rfl

/-- A callback that removes itself and publishes what nobody handles, on a bus that logs
and warns and on a silent one. -/
theorem configuration_is_observation_of_callback :
    let opened : ConcreteType := ⟨1, "Opened"⟩
    let closed : ConcreteType := ⟨2, "Closed"⟩
    let bodies : Routines (fun _ : Unit => Nat) Nat Nat := fun _ _ m =>
      .ask (m + 1) (.request (.remove 0)) fun _ m =>
        .ask m (.request (.publish 0 ⟨closed, "closed", none, .null, ""⟩)) fun _ m => .done m
    let program (config : BusConfig) : Routine (fun _ : Unit => Nat) Nat Nat :=
      .ask 0 (.request (.openBus config)) fun _ m =>
        .ask m (.request (.subscribe 0 opened fun _ => 7)) fun _ m =>
          .ask m (.request (.publish 0 ⟨opened, "opened", none, .null, ""⟩)) fun _ m => .done m
    let out (config : BusConfig) :=
      (program config).run (bodies.upTo 2) ⟨0, .empty, []⟩ (.start .empty)
    ∃ x y, out ⟨true, true⟩ = some x ∧ out .silent = some y ∧ x.1 = y.1 ∧ x.2.SameBut y.2 ∧
      x.1.memory = 1 ∧ x.2.system.log.length = 7 ∧ y.2.system.log.length = 1 ∧
      y.2.system.log = x.2.system.log.filter (!·.isOfBus) := by
  intro opened closed bodies program out
  have hlong : (out ⟨true, true⟩).map (fun x => (x.1.memory, x.2.system.log.length)) =
    some (1, 7) := by decide
  have hshort : (out .silent).map (fun y => y.2.system.log.length) = some 1 := by decide
  obtain ⟨x, hx, hlength⟩ := Option.map_eq_some_iff.mp hlong
  obtain ⟨y, hy, hlength'⟩ := Option.map_eq_some_iff.mp hshort
  obtain ⟨hmemory, hlength⟩ := Prod.mk.inj hlength
  have same : (program ⟨true, true⟩).silenced = (program .silent).silenced := rfl
  have alike : bodies.silenced = bodies.silenced := rfl
  obtain ⟨hrel, hlog⟩ := configuration_is_observation .empty same alike ⟨0, .empty, []⟩ 2
  replace hrel : Option.Rel _ (out ⟨true, true⟩) (out .silent) := hrel
  rw [hx, hy] at hrel
  cases hrel with
  | some h => exact ⟨x, y, hx, hy, h.1, h.2, hmemory, hlength, hlength', hlog rfl rfl x y hx hy⟩

end EventWiring
