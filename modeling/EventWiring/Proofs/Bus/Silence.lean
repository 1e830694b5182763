import EventWiring.Proofs.Bus.Client

/-! Silencing. Every operation does to a system what it does to the same system with
its buses silent, with the same result, except for what buses write to the log. -/
namespace EventWiring

/-- Neither logging nor warnings. -/
def BusConfig.silent : BusConfig := ⟨false, false⟩

/-- Whether a bus writes the entry. The others are those of the registry, of the
resolution of models, of binders and of handles. -/
def LogEntry.isOfBus : LogEntry → Bool
  | subscribed .. => true
  | publishing .. => true
  | unhandled _ => true
  | published .. => true
  | unsubscribedAll _ => true
  | cleared => true
  | removed .. => true
  | keyCreated _ => false
  | bound .. => false
  | unbound _ => false
  | resolved .. => false
  | rejected .. => false

def Bus.silenced {C : Type} (b : Bus C) : Bus C := { b with config := .silent }

def Token.silenced (t : Token) : Token := { t with logs := false }

namespace System

variable {C : Type} (s : System C)

/-- The system as it is when all buses are silent, and always were. -/
def silenced : System C :=
  { s with
    buses := s.buses.map (·.map Bus.silenced)
    log := s.log.filter (!·.isOfBus) }

/-! ### Reports -/

theorem silenced_reportIf (condition : Bool) {entry : LogEntry} (h : entry.isOfBus = true) :
    (s.reportIf condition entry).silenced = s.silenced := by
  cases condition <;> simp [reportIf, report, silenced, h]

theorem silenced_report {entries : List LogEntry} (h : entries.filter (!·.isOfBus) = entries) :
    (s.report entries).silenced = s.silenced.report entries := by
  simp [report, silenced, h]

theorem bus?_silenced (id : BusId) : s.silenced.bus? id = (s.bus? id).map Bus.silenced := by
  unfold bus? silenced
  rw [List.getElem?_map]
  cases s.buses[id]? <;> rfl

theorem silenced_putBus (id : BusId) (b : Bus C) :
    (s.putBus id b).silenced = s.silenced.putBus id b.silenced := by
  simp [putBus, silenced, List.map_set]

/-- What a bus does to itself and reports, a silent one does to itself. -/
theorem silenced_change (id : BusId) (b : Bus C) (condition : Bool) {entry : LogEntry}
    (h : entry.isOfBus = true) :
    ((s.putBus id b).reportIf condition entry).silenced = s.silenced.putBus id b.silenced := by
  rw [silenced_reportIf _ _ h, silenced_putBus]

theorem flag_silenced (flag : BusConfig → Bool) (h : flag .silent = false) (id : BusId) :
    ((s.silenced.bus? id).map fun b => flag b.config).getD false = false := by
  rw [bus?_silenced]
  cases s.bus? id with
  | none => rfl
  | some b => exact h

theorem logs_silenced (id : BusId) : s.silenced.logs id = false :=
  s.flag_silenced BusConfig.logging rfl id

/-! ### Operations -/

theorem keyFor_silenced (t : EventType) :
    s.silenced.keyFor t = ((s.keyFor t).1.silenced, (s.keyFor t).2) := by
  unfold keyFor
  rw [show s.silenced.registry = s.registry from rfl]
  cases s.registry.get? t with
  | none => simp [report, silenced, LogEntry.isOfBus]
  | some key => rfl

theorem openBus_silenced (config : BusConfig) :
    s.silenced.openBus .silent = ((s.openBus config).1.silenced, (s.openBus config).2) := by
  simp [openBus, silenced, Bus.new, Bus.silenced]

theorem dropBus_silenced (id : BusId) : s.silenced.dropBus id = (s.dropBus id).silenced := by
  simp [dropBus, silenced, List.map_set]

theorem subscribe_silenced (id : BusId) (key : EventKey) (callback : C) :
    s.silenced.subscribe id key callback =
      ((s.subscribe id key callback).1.silenced, (s.subscribe id key callback).2.silenced) := by
  unfold subscribe
  simp only [keyFor_silenced, bus?_silenced]
  cases (s.keyFor key.type).1.bus? id with
  | none => rfl
  | some b =>
    refine Prod.ext ?_ rfl
    dsimp only [Option.map_some]
    rw [silenced_change _ _ _ _ rfl]
    rfl

theorem remove_silenced (t : Token) :
    s.silenced.remove t.silenced = ((s.remove t).1.silenced, (s.remove t).2.silenced) := by
  unfold remove
  rw [show t.silenced.removed = t.removed from rfl]
  cases t.removed with
  | true => rfl
  | false =>
    rw [show t.silenced.bus = t.bus from rfl, bus?_silenced]
    cases s.bus? t.bus with
    | none => rfl
    | some b =>
      refine Prod.ext ?_ rfl
      dsimp only [Option.map_some]
      rw [if_neg Bool.false_ne_true, if_neg Bool.false_ne_true, silenced_change _ _ _ _ rfl]
      rfl

theorem removeAll_silenced (ts : List Token) :
    s.silenced.removeAll (ts.map Token.silenced) = (s.removeAll ts).silenced := by
  induction ts generalizing s with
  | nil => rfl
  | cons t rest ih =>
    rw [List.map_cons, removeAll, List.foldl_cons, remove_silenced]
    exact ih _

theorem unbind_silenced (ts : List Token) :
    s.silenced.unbind ⟨ts.map Token.silenced⟩ =
      ((s.unbind ⟨ts⟩).1.silenced, ⟨(s.unbind ⟨ts⟩).2.tokens.map Token.silenced⟩) := by
  cases ts with
  | nil => rfl
  | cons t rest =>
    refine Prod.ext ?_ rfl
    refine Eq.trans ?_ (silenced_report _ rfl).symm
    rw [← removeAll_silenced]
    simp [unbind, BindingHandle.isEmpty]

theorem unsubscribeAll_silenced (id : BusId) (t : EventType) :
    s.silenced.unsubscribeAll id t = (s.unsubscribeAll id t).silenced := by
  unfold unsubscribeAll
  simp only [keyFor_silenced, bus?_silenced]
  cases (s.keyFor t).1.bus? id with
  | none => rfl
  | some b =>
    dsimp only [Option.map_some]
    rw [silenced_change _ _ _ _ rfl]
    rfl

theorem clear_silenced (id : BusId) : s.silenced.clear id = (s.clear id).silenced := by
  unfold clear
  rw [bus?_silenced]
  cases s.bus? id with
  | none => rfl
  | some b =>
    dsimp only [Option.map_some]
    rw [silenced_change _ _ _ _ rfl]
    rfl

theorem count_silenced (id : BusId) (t : EventType) :
    s.silenced.count id t = ((s.count id t).1.silenced, (s.count id t).2) := by
  unfold count
  simp only [keyFor_silenced, bus?_silenced]
  cases (s.keyFor t).1.bus? id <;> rfl

theorem total_silenced (id : BusId) : s.silenced.total id = s.total id := by
  unfold total
  rw [bus?_silenced]
  cases s.bus? id <;> rfl

theorem subscribersOf_silenced (id : BusId) (e : Event) :
    s.silenced.subscribersOf id e = s.subscribersOf id e := by
  unfold subscribersOf
  rw [bus?_silenced, show s.silenced.registry = s.registry from rfl]
  cases s.bus? id with
  | none => rfl
  | some b => cases s.registry.get? e.eventType <;> rfl

theorem beginPublish_silenced (id : BusId) (e : Event) :
    s.silenced.beginPublish id e = ((s.beginPublish id e).1.silenced, (s.beginPublish id e).2) := by
  let said := s.reportIf (s.logs id) (.publishing e.name (e.metadata.map (·.id)))
  have hsaid : said.silenced = s.silenced := silenced_reportIf _ _ rfl
  unfold beginPublish
  simp only [subscribersOf_silenced, logs_silenced]
  by_cases hempty : (s.subscribersOf id e).isEmpty
  · rw [if_pos hempty, if_pos hempty]
    refine Prod.ext ?_ rfl
    dsimp only
    rw [silenced_reportIf _ _ rfl, hsaid]
    have hwarns := s.flag_silenced BusConfig.warnUnhandled rfl id
    show s.silenced.reportIf (((s.silenced.bus? id).map (·.config.warnUnhandled)).getD false) _ = _
    rw [hwarns]
    rfl
  · rw [if_neg hempty, if_neg hempty]
    refine Prod.ext ?_ rfl
    let began : Dispatch C := ⟨id, s.subscribersOf id e⟩
    show { s.silenced with running := began :: s.silenced.running } =
      { said.silenced with running := began :: said.silenced.running }
    rw [hsaid]

theorem endPublish_silenced (id : BusId) (e : Event) (handlers : Nat) :
    s.silenced.endPublish id e handlers = (s.endPublish id e handlers).silenced := by
  unfold endPublish
  rw [silenced_reportIf _ _ rfl, logs_silenced]
  rfl

theorem subscribeAll_silenced {A : Type} (s : System (Callback A)) (bus : BusId)
    (ts : List Token) (wiring : List (EventType × Callback A)) :
    s.silenced.subscribeAll bus ⟨ts.map Token.silenced⟩ wiring =
      ((s.subscribeAll bus ⟨ts⟩ wiring).1.silenced,
        ⟨(s.subscribeAll bus ⟨ts⟩ wiring).2.tokens.map Token.silenced⟩) := by
  induction wiring generalizing s ts with
  | nil => rfl
  | cons w rest ih =>
    simp only [subscribeAll, keyFor_silenced, subscribe_silenced]
    rw [← ih]
    simp [BindingHandle.push]

theorem bind_silenced {A T : Type} (s : System (Callback A)) (bus : BusId)
    (binder : EventBinder T A) (target : Shared T) :
    s.silenced.bind bus binder target =
      ((s.bind bus binder target).1.silenced,
        ⟨(s.bind bus binder target).2.tokens.map Token.silenced⟩) := by
  have hall : s.silenced.subscribeAll bus .empty (binder.wiring target) = _ :=
    s.subscribeAll_silenced bus [] (binder.wiring target)
  unfold bind
  dsimp only
  rw [hall, silenced_report _ rfl, List.length_map]
  rfl

end System

end EventWiring
