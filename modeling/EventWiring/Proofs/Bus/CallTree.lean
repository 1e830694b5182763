import EventWiring.Proofs.Bus.Logging

/-! Call trees. A run that returns has a tree: below a publish stand the callbacks that it
invoked, and below a callback what that did, further publishes included. The log of the run is
its tree read from left to right, where a publish stands around its callbacks. -/
namespace EventWiring

variable {A : Type}

/-! ### Trees and their lines -/

/-- A publish, with what its bus is to log when it begins, and whether the bus was dropped
before it ended. -/
structure PublishFrame where
  event : Event
  logging : Bool
  warning : Bool
  dropped : Bool

namespace PublishFrame

/-- The line that a publish begins with. -/
def first (f : PublishFrame) : List LogEntry :=
  if f.logging then [.publishing f.event.name (f.event.metadata.map (·.id))] else []

/-- The line that a publish ends with, by the number of callbacks that it invoked. -/
def last (f : PublishFrame) (handlers : Nat) : List LogEntry :=
  if handlers = 0 then if f.warning then [.unhandled f.event.name] else []
  else if f.logging && !f.dropped then [.published f.event.name handlers] else []

end PublishFrame

/-- What happened in a run: a line was logged, a callback was invoked, or an event was
published. -/
inductive CallTree (A : Type) where
  | line (entry : LogEntry)
  | callback (call : Invocation A) (inside : List (CallTree A))
  | publish (frame : PublishFrame) (callbacks : List (CallTree A))

namespace CallTree

mutual

/-- The lines that were logged, in order. -/
def lines : CallTree A → List LogEntry
  | line entry => [entry]
  | callback _ inside => linesOf inside
  | publish frame callbacks =>
    frame.first ++ linesOf callbacks ++ frame.last callbacks.length

/-- The lines of one tree after the other. -/
def linesOf : List (CallTree A) → List LogEntry
  | [] => []
  | t :: rest => t.lines ++ linesOf rest

end

mutual

/-- The publishes of a tree, the outer ones first. -/
def frames : CallTree A → List PublishFrame
  | line _ => []
  | callback _ inside => framesOf inside
  | publish frame callbacks => frame :: framesOf callbacks

/-- The publishes of one tree after the other. -/
def framesOf : List (CallTree A) → List PublishFrame
  | [] => []
  | t :: rest => t.frames ++ framesOf rest

end

@[simp] theorem linesOf_append (ts us : List (CallTree A)) :
    linesOf (ts ++ us) = linesOf ts ++ linesOf us := by
  induction ts with
  | nil => rfl
  | cons t ts ih => rw [List.cons_append, linesOf, linesOf, ih, List.append_assoc]

@[simp] theorem linesOf_map_line (es : List LogEntry) :
    linesOf (es.map (line (A := A))) = es := by
  induction es with
  | nil => rfl
  | cons e es ih => rw [List.map_cons, linesOf, lines, ih, List.singleton_append]

/-- The callback that a tree stands for. -/
def call? : CallTree A → Option (Invocation A)
  | callback call _ => some call
  | _ => none

end CallTree

/-! ### Begin and end of a publish -/

namespace System

variable {C : Type}

/-- Whether a bus warns of events without subscribers. -/
def warns (s : System C) (id : BusId) : Bool :=
  ((s.config? id).map (·.warnUnhandled)).getD false

/-- The callbacks that a publish is to invoke. -/
def callbacksFor (s : System C) (id : BusId) (e : Event) : List C :=
  (s.subscribersOf id e).map (·.callback)

/-- A publish that began in a system and ends in another. -/
def frame (s s₁ : System C) (id : BusId) (e : Event) : PublishFrame :=
  ⟨e, s.logs id, s.warns id, s.isOpen id && !s₁.isOpen id⟩

/-- The system after a publish that invoked some callbacks. -/
def afterPublish (s : System C) (id : BusId) (e : Event) (handlers : Nat) : System C :=
  if handlers = 0 then s else s.endPublish id e handlers

/-- Nothing is subscribed on a bus that is not there. -/
theorem isOpen_of_callbacksFor {s : System C} {id : BusId} {e : Event}
    (h : s.callbacksFor id e ≠ []) : s.isOpen id = true := by
  rw [isOpen]
  cases hb : s.bus? id with
  | some b => rfl
  | none =>
    exfalso
    apply h
    rw [callbacksFor, subscribersOf, hb]
    rfl

theorem log_reportIf (s : System C) (condition : Bool) (entry : LogEntry) :
    (s.reportIf condition entry).log = s.log ++ if condition then [entry] else [] := by
  cases condition with
  | false => exact (List.append_nil _).symm
  | true => rfl

/-- What is logged before the first callback. -/
theorem log_beginPublish (s s₁ : System C) (id : BusId) (e : Event) :
    (s.beginPublish id e).1.log = s.log ++ ((s.frame s₁ id e).first ++
      if (s.callbacksFor id e).length = 0 then (s.frame s₁ id e).last 0 else []) := by
  have hwarns : ∀ t : System C, t.buses = s.buses →
      ((t.bus? id).map (·.config.warnUnhandled)).getD false = s.warns id := by
    intro t ht
    rw [warns, config?, bus?_congr ht, Option.map_map]
    rfl
  have hfirst : ((s.reportIf (s.logs id) (.publishing e.name (e.metadata.map (·.id)))).log) =
      s.log ++ (s.frame s₁ id e).first := log_reportIf ..
  unfold beginPublish callbacksFor
  cases s.subscribersOf id e with
  | nil =>
    dsimp only
    rw [List.isEmpty_nil, if_pos rfl, hwarns _ (buses_reportIf ..), log_reportIf, hfirst,
      List.append_assoc]
    rfl
  | cons sub subs =>
    rw [← List.append_assoc, ← hfirst]
    exact (List.append_nil _).symm

/-- What is logged after the last callback. -/
theorem log_afterPublish {s s₁ : System C} (hkeeps : s.Keeps s₁) {id : BusId} {e : Event}
    {n : Nat} (hopen : n ≠ 0 → s.isOpen id = true) :
    (s₁.afterPublish id e n).log = s₁.log ++ if n = 0 then [] else (s.frame s₁ id e).last n := by
  unfold afterPublish
  split
  · exact (List.append_nil _).symm
  · rename_i hn
    have hconfirms : s₁.logs id = ((s.frame s₁ id e).logging && !(s.frame s₁ id e).dropped) := by
      rw [hkeeps.logs_eq (hopen hn), frame, hopen hn, Bool.true_and, Bool.not_not]
    rw [PublishFrame.last, if_neg hn, ← hconfirms]
    exact log_reportIf ..

theorem keeps_beginPublish (s : System C) (id : BusId) (e : Event) :
    s.Keeps (s.beginPublish id e).1 :=
  .of_buses (buses_beginPublish ..)

theorem buses_afterPublish (s : System C) (id : BusId) (e : Event) (n : Nat) :
    (s.afterPublish id e n).buses = s.buses := by
  unfold afterPublish
  split
  · rfl
  · exact buses_endPublish ..

theorem keeps_afterPublish (s : System C) (id : BusId) (e : Event) (n : Nat) :
    s.Keeps (s.afterPublish id e n) :=
  .of_buses (buses_afterPublish ..)

end System

/-! ### Runs with their trees -/

variable {ι M : Type} {T : ι → Type}

/-- What is left to do in a run: the rest of a routine, or callbacks that an event is still to
be delivered to. -/
inductive Errand (T : ι → Type) (A M : Type) : Type 1 where
  | routine (p : Routine T A M)
  | deliver (e : Event) (ks : List (Callback A))

variable [DecidableEq ι]

/-- An errand goes from a course and a program to others, and these trees are what happened
meanwhile. -/
inductive Traces (bodies : Routines T A M) :
    Errand T A M → Course T A M → Client A → List (CallTree A) → Course T A M → Client A →
      Prop where
  | done (m : M) (w : Course T A M) (c : Client A) :
    Traces bodies (.routine (.done m)) w c [] { w with memory := m } c
  | plain {m : M} {op : Operation T A} {next : Reply T A → M → Routine T A M}
    {w w₁ w' : Course T A M} {c c₁ c' : Client A} {a : Reply T A} {es : List LogEntry}
    {ts : List (CallTree A)} (noPublish : op.publish? c = none)
    (step : ∀ invoke : Runner A (Course T A M),
      invoke.perform { w with memory := m } c op = some (w₁, c₁, a))
    (log : c₁.system.log = c.system.log ++ es) (noLine : ∀ x ∈ es, x.isOfPublish = false)
    (rest : Traces bodies (.routine (next a w₁.memory))
      { w₁ with record := w₁.record ++ [.learned a] } c₁ ts w' c') :
    Traces bodies (.routine (.ask m op next)) w c (es.map .line ++ ts) w' c'
  | publish {m : M} {op : Operation T A} {next : Reply T A → M → Routine T A M} {id : BusId}
    {e : Event} {w w₁ w' : Course T A M} {c c₁ c' : Client A} {calls ts : List (CallTree A)}
    (isPublish : op.publish? c = some (id, e))
    (callbacks : Traces bodies (.deliver e (c.system.callbacksFor id e)) { w with memory := m }
      ⟨c.held, (c.system.beginPublish id e).1⟩ calls w₁ c₁)
    (rest : let a := .answer (.invoked ((c.system.callbacksFor id e).map (⟨·, e⟩)))
      Traces bodies (.routine (next a w₁.memory))
        { w₁ with record := w₁.record ++ [.learned a] }
        ⟨c₁.held, c₁.system.afterPublish id e calls.length⟩ ts w' c') :
    Traces bodies (.routine (.ask m op next)) w c
      (.publish (c.system.frame c₁.system id e) calls :: ts) w' c'
  | delivered (e : Event) (w : Course T A M) (c : Client A) :
    Traces bodies (.deliver e []) w c [] w c
  | callback {e : Event} {k : Callback A} {ks : List (Callback A)} {w w₁ w' : Course T A M}
    {c c₁ c' : Client A} {inside ts : List (CallTree A)}
    (body : Traces bodies (.routine (bodies k e w.memory))
      { w with record := w.record ++ [.invoked ⟨k, e⟩] } c inside w₁ c₁)
    (others : Traces bodies (.deliver e ks) w₁ c₁ ts w' c') :
    Traces bodies (.deliver e (k :: ks)) w c (.callback ⟨k, e⟩ inside :: ts) w' c'

namespace Traces

variable {bodies : Routines T A M} {w w' : Course T A M} {c c' : Client A}
  {ts : List (CallTree A)} {t : Errand T A M}

/-- The trees of a delivery are its callbacks, each once and in order. -/
theorem calls {e : Event} {ks : List (Callback A)}
    (h : Traces bodies (.deliver e ks) w c ts w' c') :
    ts.map CallTree.call? = ks.map fun k => some ⟨k, e⟩ := by
  induction ks generalizing w c ts with
  | nil =>
    cases h
    rfl
  | cons k ks ih =>
    cases h with
    | callback body others => rw [List.map_cons, List.map_cons, ih others]; rfl

theorem length_calls {e : Event} {ks : List (Callback A)}
    (h : Traces bodies (.deliver e ks) w c ts w' c') : ts.length = ks.length := by
  simpa using congrArg List.length h.calls

theorem keeps (h : Traces bodies t w c ts w' c') : c.system.Keeps c'.system := by
  induction h with
  | done => exact .of_buses rfl
  | delivered => exact .of_buses rfl
  | @plain m op next w w₁ w' c c₁ c' a es ts noPublish step _ _ _ ih =>
    obtain ⟨w₂, c₂, a₂, hstep, hproceeds⟩ :=
      Runner.perform_of_plain (M := M) { w with memory := m } c noPublish
    have hsame : some (w₂, c₂, a₂) = some (w₁, c₁, a) :=
      (hstep fun _ _ _ _ => none).symm.trans (step fun _ _ _ _ => none)
    cases hsame
    exact hproceeds.keeps.trans ih
  | publish _ _ _ ihc ihr =>
    have hdelivered := (System.keeps_beginPublish ..).trans ihc
    exact (hdelivered.trans (System.keeps_afterPublish ..)).trans ihr
  | callback _ _ ihb iho => exact ihb.trans iho

/-- The lines of a publish: its first, those of its callbacks, and its last. -/
theorem log_publish {s : System (Callback A)} {held : Holdings Token} {id : BusId} {e : Event}
    {c₁ : Client A}
    (callbacks : Traces bodies (.deliver e (s.callbacksFor id e)) w
      ⟨held, (s.beginPublish id e).1⟩ ts w' c₁)
    (hlog : c₁.system.log = (s.beginPublish id e).1.log ++ CallTree.linesOf ts) :
    (c₁.system.afterPublish id e ts.length).log =
      s.log ++ (CallTree.publish (s.frame c₁.system id e) ts).lines := by
  have hkeeps : s.Keeps c₁.system := (System.keeps_beginPublish ..).trans callbacks.keeps
  have hopen : ts.length ≠ 0 → s.isOpen id = true := by
    intro hts
    rw [callbacks.length_calls] at hts
    exact System.isOpen_of_callbacksFor (List.ne_nil_of_length_pos (Nat.pos_of_ne_zero hts))
  rw [System.log_afterPublish hkeeps hopen, hlog, System.log_beginPublish s c₁.system,
    ← callbacks.length_calls, CallTree.lines]
  cases ts with
  | nil => simp [CallTree.linesOf]
  | cons t ts => simp

/-- The log of a run is its trees read from left to right. -/
theorem log (h : Traces bodies t w c ts w' c') :
    c'.system.log = c.system.log ++ CallTree.linesOf ts := by
  induction h with
  | done => exact (List.append_nil _).symm
  | plain _ _ log _ _ ih =>
    rw [ih, log, CallTree.linesOf_append, CallTree.linesOf_map_line, List.append_assoc]
  | publish _ callbacks _ ihc ihr =>
    rw [ihr, log_publish callbacks ihc, CallTree.linesOf, List.append_assoc]
  | delivered => exact (List.append_nil _).symm
  | callback _ _ ihb iho =>
    rw [iho, ihb, CallTree.linesOf, CallTree.lines, List.append_assoc]

end Traces

/-! ### Runs that return have trees -/

namespace Runner

theorem publish_eq_afterPublish (invoke : Runner A M) (id : BusId) (e : Event) (m : M)
    (c : Client A) :
    invoke.publish id e m c =
      let ks := c.system.callbacksFor id e
      let w := invoke.deliver e ks (some (m, c.held, []), (c.system.beginPublish id e).1)
      w.1.map fun (m, held, calls) => (m, ⟨held, w.2.afterPublish id e ks.length⟩, calls) := by
  rw [invoke.publish_eq]
  simp only [System.callbacksFor, System.afterPublish, List.length_map, List.isEmpty_iff,
    List.length_eq_zero_iff]

/-- Whatever the runner returns from has a tree. -/
def Traced (bodies : Routines T A M) (invoke : Runner A (Course T A M)) : Prop :=
  ∀ {k e w c w' c'}, invoke k e w c = some (w', c') →
    ∃ ts, Traces bodies (.routine (bodies k e w.memory))
      { w with record := w.record ++ [.invoked ⟨k, e⟩] } c ts w' c'

namespace Traced

variable {bodies : Routines T A M} {invoke : Runner A (Course T A M)} {w w' : Course T A M}

theorem deliver (h : Traced bodies invoke) {e : Event} {ks : List (Callback A)}
    {held held' : Holdings Token} {calls calls' : List (Invocation A)} {s s' : System (Callback A)}
    (hrun : invoke.deliver e ks (some (w, held, calls), s) = (some (w', held', calls'), s')) :
    calls' = calls ++ ks.map (⟨·, e⟩) ∧
      ∃ ts, Traces bodies (.deliver e ks) w ⟨held, s⟩ ts w' ⟨held', s'⟩ := by
  induction ks generalizing w held calls s with
  | nil =>
    cases hrun
    exact ⟨(List.append_nil _).symm, [], .delivered ..⟩
  | cons k ks ih =>
    cases hk : invoke k e w ⟨held, s⟩ with
    | none =>
      rw [invoke.deliver_cons_none ks hk] at hrun
      cases hrun
    | some x =>
      obtain ⟨w₁, c₁⟩ := x
      rw [invoke.deliver_cons ks hk] at hrun
      obtain ⟨inside, hbody⟩ := h hk
      obtain ⟨hcalls, ts, hothers⟩ := ih hrun
      refine ⟨?_, _, .callback hbody hothers⟩
      rw [hcalls, List.append_assoc]
      rfl

theorem publish (h : Traced bodies invoke) {id : BusId} {e : Event} {c c' : Client A}
    {calls : List (Invocation A)} (hrun : invoke.publish id e w c = some (w', c', calls)) :
    calls = (c.system.callbacksFor id e).map (⟨·, e⟩) ∧
      ∃ ts c₁, Traces bodies (.deliver e (c.system.callbacksFor id e)) w
        ⟨c.held, (c.system.beginPublish id e).1⟩ ts w' c₁ ∧
        c' = ⟨c₁.held, c₁.system.afterPublish id e ts.length⟩ := by
  rw [invoke.publish_eq_afterPublish] at hrun
  obtain ⟨⟨w₁, held, calls₁⟩, hw, hc⟩ := Option.map_eq_some_iff.mp hrun
  cases hc
  obtain ⟨hcalls, ts, hts⟩ := h.deliver (Prod.ext hw rfl)
  rw [← hts.length_calls]
  exact ⟨hcalls, ts, _, hts, rfl⟩

theorem routine (h : Traced bodies invoke) {p : Routine T A M} {c c' : Client A}
    (hrun : p.run invoke w c = some (w', c')) :
    ∃ ts, Traces bodies (.routine p) w c ts w' c' := by
  -- on the routine: the callbacks of a publish in it are left to `h`
  induction p generalizing w c with
  | done m =>
    cases hrun
    exact ⟨[], .done ..⟩
  | ask m op next ih =>
    obtain ⟨⟨w₁, c₁, a⟩, hperform, hrest⟩ := Option.bind_eq_some_iff.mp hrun
    obtain ⟨ts, hts⟩ := ih _ _ hrest
    cases hop : op.publish? c with
    | none =>
      obtain ⟨w₂, c₂, a₂, hstep, hproceeds⟩ :=
        Runner.perform_of_plain (M := M) { w with memory := m } c hop
      cases (hstep invoke).symm.trans hperform
      obtain ⟨es, hlog, hes⟩ := hproceeds.log
      exact ⟨_, .plain hop hstep hlog hes hts⟩
    | some x =>
      obtain ⟨id, e⟩ := x
      obtain ⟨bus, hbus, rfl⟩ := op.eq_publish hop
      rw [perform, ask, hbus] at hperform
      obtain ⟨x, hask, hx⟩ := Option.map_eq_some_iff.mp hperform
      obtain ⟨⟨w₂, c₂, calls⟩, hpublish, hc⟩ := Option.map_eq_some_iff.mp hask
      cases hc
      cases hx
      obtain ⟨rfl, inside, c₃, hcallbacks, rfl⟩ := h.publish hpublish
      exact ⟨_, .publish hop hcallbacks hts⟩

end Traced

theorem traced_upTo (bodies : Routines T A M) (depth : Nat) :
    Traced bodies (bodies.upTo depth) := by
  induction depth with
  | zero =>
    intro k e w c w' c' hrun
    cases hrun
  | succ depth ih =>
    intro k e w c w' c' hrun
    exact ih.routine hrun

end Runner

/-! ### What has trees returns -/

/-- A runner does an errand. -/
def Errand.Returns (invoke : Runner A (Course T A M)) (w : Course T A M) (c : Client A)
    (w' : Course T A M) (c' : Client A) : Errand T A M → Prop
  | .routine p => p.run invoke w c = some (w', c')
  | .deliver e ks => ∀ calls, invoke.deliver e ks (some (w, c.held, calls), c.system) =
      (some (w', c'.held, calls ++ ks.map (⟨·, e⟩)), c'.system)

theorem Traces.returns {bodies : Routines T A M} {t : Errand T A M} {w w' : Course T A M}
    {c c' : Client A} {ts : List (CallTree A)} (h : Traces bodies t w c ts w' c') :
    ∃ depth, ∀ deep, depth ≤ deep → t.Returns (bodies.upTo deep) w c w' c' := by
  -- a depth that is enough is found on the way, and any larger one is enough too
  induction h with
  | done => exact ⟨0, fun _ _ => rfl⟩
  | @plain m op next w w₁ w' c c₁ c' a es ts _ step _ _ _ ih =>
    obtain ⟨depth, ih⟩ := ih
    refine ⟨depth, fun deep hdeep => ?_⟩
    show Routine.run _ _ _ _ = _
    rw [Routine.run, step]
    exact ih deep hdeep
  | @publish m op next id e w w₁ w' c c₁ c' calls ts isPublish callbacks _ ihc ihr =>
    obtain ⟨depth, ihc⟩ := ihc
    obtain ⟨depth', ihr⟩ := ihr
    refine ⟨max depth depth', fun deep hdeep => ?_⟩
    obtain ⟨bus, hbus, rfl⟩ := op.eq_publish isPublish
    have hdeliver := ihc deep (by omega) []
    show Routine.run _ _ _ _ = _
    rw [Routine.run, Runner.perform, Runner.ask, hbus]
    dsimp only
    rw [Runner.publish_eq_afterPublish]
    dsimp only
    rw [hdeliver, ← callbacks.length_calls]
    exact ihr deep (by omega)
  | delivered =>
    refine ⟨0, fun deep _ calls => ?_⟩
    rw [List.map_nil, List.append_nil]
    rfl
  | @callback e k ks w w₁ w' c c₁ c' inside ts _ _ ihb iho =>
    obtain ⟨depth, ihb⟩ := ihb
    obtain ⟨depth', iho⟩ := iho
    -- one level more, for the body itself
    refine ⟨max (depth + 1) depth', fun deep hdeep calls => ?_⟩
    obtain ⟨deeper, rfl⟩ : ∃ deeper, deep = deeper + 1 := ⟨deep - 1, by omega⟩
    have hk : bodies.upTo (deeper + 1) k e w ⟨c.held, c.system⟩ = some (w₁, c₁) :=
      ihb deeper (by omega)
    rw [Runner.deliver_cons _ ks hk, iho _ (by omega), List.append_assoc]
    rfl

/-- The trees are those of the runs that return. -/
theorem Routine.returns_iff_traces (bodies : Routines T A M) (p : Routine T A M)
    (w w' : Course T A M) (c c' : Client A) :
    (∃ depth, p.run (bodies.upTo depth) w c = some (w', c')) ↔
      ∃ ts, Traces bodies (.routine p) w c ts w' c' := by
  constructor
  · rintro ⟨depth, hrun⟩
    have htraced : Runner.Traced bodies (bodies.upTo depth) := Runner.traced_upTo bodies depth
    exact Runner.Traced.routine htraced hrun
  · rintro ⟨ts, hts⟩
    obtain ⟨depth, hreturns⟩ := hts.returns
    exact ⟨depth, hreturns depth (Nat.le_refl _)⟩

end EventWiring
