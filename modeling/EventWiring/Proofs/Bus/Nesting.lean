import EventWiring.Proofs.Bus.CallTree

/-! The log of publishes. Publishes are nested as their callbacks are: each that invokes some
stands in the log as a pair of lines, around all that its callbacks log. -/
namespace EventWiring

/-! ### Balanced lines -/

/-- Lines in which every end of a publish closes a beginning of one of the same event. A publish
that invokes no callback has no end. -/
inductive Balanced : List LogEntry → Prop where
  | nil : Balanced []
  | other {x : LogEntry} {rest : List LogEntry} (noPublish : x.isOfPublish = false)
    (balanced : Balanced rest) : Balanced (x :: rest)
  | unheard {name : String} {id : Option Uuid} {rest : List LogEntry} (balanced : Balanced rest) :
    Balanced (.publishing name id :: rest)
  | warned {name : String} {rest : List LogEntry} (balanced : Balanced rest) :
    Balanced (.unhandled name :: rest)
  | heard {name : String} {id : Option Uuid} {handlers : Nat} {inside rest : List LogEntry}
    (some : handlers ≠ 0) (insideBalanced : Balanced inside) (balanced : Balanced rest) :
    Balanced (.publishing name id :: (inside ++ .published name handlers :: rest))

namespace Balanced

theorem append {xs ys : List LogEntry} (hxs : Balanced xs) (hys : Balanced ys) :
    Balanced (xs ++ ys) := by
  induction hxs with
  | nil => exact hys
  | other noPublish _ ih => exact .other noPublish ih
  | unheard _ ih => exact .unheard ih
  | warned _ ih => exact .warned ih
  | heard some inside _ _ ih =>
    rw [List.cons_append, List.append_assoc, List.cons_append]
    exact .heard some inside ih

theorem of_plain {xs : List LogEntry} (h : ∀ x ∈ xs, x.isOfPublish = false) : Balanced xs := by
  induction xs with
  | nil => exact .nil
  | cons x xs ih =>
    exact .other (h x (List.mem_cons_self ..)) (ih fun y hy => h y (List.mem_cons_of_mem _ hy))

/-- A publish stands around what its callbacks log. -/
theorem publish {f : PublishFrame} (stays : f.dropped = false) {inside : List LogEntry}
    {handlers : Nat} (hinside : Balanced inside) (hnone : handlers = 0 → inside = []) :
    Balanced (f.first ++ inside ++ f.last handlers) := by
  unfold PublishFrame.first PublishFrame.last
  rw [stays, Bool.not_false, Bool.and_true]
  by_cases h : handlers = 0
  · rw [if_pos h, hnone h, List.append_nil]
    split <;> split
    · exact .unheard (.warned .nil)
    · exact .unheard .nil
    · exact .warned .nil
    · exact .nil
  · rw [if_neg h]
    split
    · exact .heard h hinside .nil
    · rw [List.nil_append, List.append_nil]
      exact hinside

end Balanced

/-! ### Trees of balanced lines -/

@[simp] theorem CallTree.framesOf_append {A : Type} (ts us : List (CallTree A)) :
    framesOf (ts ++ us) = framesOf ts ++ framesOf us := by
  induction ts with
  | nil => rfl
  | cons t ts ih => rw [List.cons_append, framesOf, framesOf, ih, List.append_assoc]

@[simp] theorem CallTree.framesOf_map_line {A : Type} (es : List LogEntry) :
    framesOf (es.map (line (A := A))) = [] := by
  induction es with
  | nil => rfl
  | cons e es ih => rw [List.map_cons, framesOf, frames, ih, List.append_nil]

variable {A ι M : Type} {T : ι → Type} [DecidableEq ι]

namespace Traces

variable {bodies : Routines T A M} {w w' : Course T A M} {c c' : Client A}
  {ts : List (CallTree A)} {t : Errand T A M}

/-- Where no publish loses its bus, the lines of a run are balanced. -/
theorem balanced (h : Traces bodies t w c ts w' c')
    (stays : ∀ f ∈ CallTree.framesOf ts, f.dropped = false) :
    Balanced (CallTree.linesOf ts) := by
  induction h with
  | done => exact .nil
  | delivered => exact .nil
  | plain _ _ _ noLine _ ih =>
    rw [CallTree.linesOf_append, CallTree.linesOf_map_line]
    rw [CallTree.framesOf_append, CallTree.framesOf_map_line, List.nil_append] at stays
    exact (Balanced.of_plain noLine).append (ih stays)
  | @publish m op next id e w w₁ w' c c₁ c' calls ts _ callbacks _ ihc ihr =>
    simp only [CallTree.framesOf, CallTree.frames, List.cons_append, List.forall_mem_cons,
      List.forall_mem_append] at stays
    obtain ⟨hframe, hinside, hrest⟩ := stays
    have hnone : calls.length = 0 → CallTree.linesOf calls = [] := by
      intro hcalls
      rw [List.eq_nil_of_length_eq_zero hcalls, CallTree.linesOf]
    rw [CallTree.linesOf, CallTree.lines]
    exact (Balanced.publish hframe (ihc hinside) hnone).append (ihr hrest)
  | callback _ _ ihb iho =>
    simp only [CallTree.framesOf, CallTree.frames, List.forall_mem_append] at stays
    rw [CallTree.linesOf, CallTree.lines]
    exact (ihb stays.1).append (iho stays.2)

/-- Where no bus was dropped at the end, no publish has lost its bus. -/
theorem not_dropped (h : Traces bodies t w c ts w' c') (hopen : c'.system.AllOpen) :
    ∀ f ∈ CallTree.framesOf ts, f.dropped = false := by
  induction h with
  | done => simp [CallTree.framesOf]
  | delivered => simp [CallTree.framesOf]
  | plain _ _ _ _ _ ih =>
    rw [CallTree.framesOf_append, CallTree.framesOf_map_line, List.nil_append]
    exact ih hopen
  | @publish m op next id e w w₁ w' c c₁ c' calls ts _ callbacks rest ihc ihr =>
    have hbegun : c.system.Keeps c₁.system :=
      (System.keeps_beginPublish ..).trans callbacks.keeps
    have hended : c₁.system.AllOpen :=
      ((System.keeps_afterPublish ..).trans rest.keeps).allOpen hopen
    have hframe : (c.system.frame c₁.system id e).dropped = false := by
      rw [System.frame]
      cases hid : c.system.isOpen id with
      | false => rfl
      | true =>
        obtain ⟨b, hb⟩ := Option.isSome_iff_exists.mp hid
        rw [hended id (Nat.lt_of_lt_of_le (System.bus?_lt hb) hbegun.places)]
        rfl
    simp only [CallTree.framesOf, CallTree.frames, List.cons_append, List.forall_mem_cons,
      List.forall_mem_append]
    exact ⟨hframe, ihc hended, ihr hopen⟩
  | callback _ others ihb iho =>
    simp only [CallTree.framesOf, CallTree.frames, List.forall_mem_append]
    exact ⟨ihb (others.keeps.allOpen hopen), iho hopen⟩

end Traces

/-! ### The law of the log -/

variable (bodies : Routines T A M) (depth : Nat)

/-- What a publish logs in all, by what it invokes. -/
theorem log_publish_upTo {id : BusId} {e : Event} {w w' : Course T A M} {c c' : Client A}
    {calls : List (Invocation A)}
    (hrun : (bodies.upTo depth).publish id e w c = some (w', c', calls)) :
    calls = (c.system.callbacksFor id e).map (⟨·, e⟩) ∧
      ∃ ts c₁, Traces bodies (.deliver e (c.system.callbacksFor id e)) w
          ⟨c.held, (c.system.beginPublish id e).1⟩ ts w' c₁ ∧
        ts.map CallTree.call? = calls.map some ∧
        c'.system.log =
          c.system.log ++ (CallTree.publish (c.system.frame c'.system id e) ts).lines := by
  have htraced : Runner.Traced bodies (bodies.upTo depth) := Runner.traced_upTo bodies depth
  obtain ⟨rfl, ts, c₁, hts, rfl⟩ := Runner.Traced.publish htraced hrun
  refine ⟨rfl, ts, c₁, hts, ?_, ?_⟩
  · rw [hts.calls, List.map_map]
    rfl
  · have hopen : (c₁.system.afterPublish id e ts.length).isOpen id = c₁.system.isOpen id :=
      System.isOpen_congr (System.buses_afterPublish ..) id
    rw [hts.log_publish hts.log, System.frame, System.frame, hopen]

/-- A publish on a bus that logs announces itself first. If it invokes callbacks, a last line
says how many these were, and all that they log lies between the two lines; if it invokes none,
there is at most a warning. So it is for publishes inside callbacks, and the lines of a run are
its tree read from left to right, which makes them balanced. Whoever publishes holds the bus, so
it is there when the publish is over. -/
theorem publish_log_well_nested :
    (∀ {id : BusId} {e : Event} {w w' : Course T A M} {c c' : Client A}
        {calls : List (Invocation A)},
      (bodies.upTo depth).publish id e w c = some (w', c', calls) →
      calls = (c.system.callbacksFor id e).map (⟨·, e⟩) ∧
        ∃ ts c₁, Traces bodies (.deliver e (c.system.callbacksFor id e)) w
            ⟨c.held, (c.system.beginPublish id e).1⟩ ts w' c₁ ∧
          ts.map CallTree.call? = calls.map some ∧
          (c.system.logs id = true →
            let announced := c.system.log ++ [.publishing e.name (e.metadata.map (·.id))]
            (calls = [] → c'.system.log =
              announced ++ if c.system.warns id then [.unhandled e.name] else []) ∧
            (calls ≠ [] → c'.system.isOpen id = true → c'.system.log =
              announced ++ CallTree.linesOf ts ++ [.published e.name calls.length]))) ∧
    ∀ {p : Routine T A M} {w w' : Course T A M} {c c' : Client A},
      p.run (bodies.upTo depth) w c = some (w', c') →
      ∃ ts, Traces bodies (.routine p) w c ts w' c' ∧
        c'.system.log = c.system.log ++ CallTree.linesOf ts ∧
        ((∀ f ∈ CallTree.framesOf ts, f.dropped = false) → Balanced (CallTree.linesOf ts)) := by
  constructor
  · intro id e w w' c c' calls hrun
    obtain ⟨hcalls, ts, c₁, hts, hmatch, hlog⟩ := log_publish_upTo bodies depth hrun
    have hlength : ts.length = calls.length := by
      simpa using congrArg List.length hmatch
    refine ⟨hcalls, ts, c₁, hts, hmatch, fun hlogs => ⟨?_, ?_⟩⟩
    · intro hnone
      rw [hnone] at hlength
      obtain rfl := List.eq_nil_of_length_eq_zero hlength
      simpa [CallTree.lines, CallTree.linesOf, System.frame, PublishFrame.first,
        PublishFrame.last, hlogs] using hlog
    · intro hsome hopen
      have hpos : calls.length ≠ 0 := fun h => hsome (List.eq_nil_of_length_eq_zero h)
      simpa [CallTree.lines, System.frame, PublishFrame.first, PublishFrame.last, hlogs, hopen,
        hlength, hpos] using hlog
  · intro p w w' c c' hrun
    obtain ⟨ts, hts⟩ := (p.returns_iff_traces bodies w w' c c').mp ⟨depth, hrun⟩
    exact ⟨ts, hts, hts.log, hts.balanced⟩

/-- The first of two callbacks removes itself, subscribes a third and publishes the event again.
The third publishes it on a second bus, which only warns. -/
theorem publish_log_well_nested_of_callbacks :
    let opened : ConcreteType := ⟨1, "Opened"⟩
    let e : Event := ⟨opened, "opened", none, .null, ""⟩
    let key : EventKey := ⟨1, .concrete opened⟩
    let bodies : Routines (fun _ : Unit => Nat) Nat Nat := fun k e m =>
      match k.run e with
      | some 1 =>
        .ask m (.request (.remove 0)) fun _ m =>
          .ask m (.request (.subscribe 0 opened fun _ => 3)) fun _ m =>
            .ask m (.request (.publish 0 e)) fun _ m => .done m
      | some 3 => .ask m (.request (.publish 1 e)) fun _ m => .done m
      | _ => .done m
    let c := (Client.start .empty).run Client.idle
      [.openBus ⟨true, false⟩, .openBus ⟨false, true⟩, .subscribe 0 opened fun _ => 1,
        .subscribe 0 opened fun _ => 2]
    let again : List LogEntry :=
      [.publishing "opened" none, .unhandled "opened", .published "opened" 2]
    let inside : List LogEntry := [.removed 1 key, .subscribed 3 key] ++ again
    let run := (bodies.upTo 3).publish 0 e ⟨0, .empty, []⟩ c
    let routine : Routine (fun _ : Unit => Nat) Nat Nat :=
      .ask 0 (.request (.publish 0 e)) fun _ m => .done m
    (∃ w' c' calls ts, run = some (w', c', calls) ∧ calls.length = 2 ∧
      ts.map CallTree.call? = calls.map some ∧ CallTree.linesOf ts = inside ∧
      c'.system.log = c.system.log ++ [.publishing "opened" none] ++ CallTree.linesOf ts ++
        [.published "opened" 2]) ∧
    ∃ w' c' ts, routine.run (bodies.upTo 3) ⟨0, .empty, []⟩ c = some (w', c') ∧
      Traces bodies (.routine routine) ⟨0, .empty, []⟩ c ts w' c' ∧
      Balanced (CallTree.linesOf ts) ∧
      CallTree.linesOf ts = .publishing "opened" none :: inside ++ [.published "opened" 2] := by
  intro opened e key bodies c again inside run routine
  have hout : run.map (fun x => (x.2.2.length, x.2.1.system.isOpen 0, x.2.1.system.log)) =
      some (2, true, c.system.log ++ [.publishing "opened" none] ++ inside ++
        [.published "opened" 2]) := by decide +kernel
  have hout' : (routine.run (bodies.upTo 3) ⟨0, .empty, []⟩ c).map
        (fun x => (decide x.2.system.AllOpen, x.2.system.log)) =
      some (true, c.system.log ++ (.publishing "opened" none :: inside ++
        [.published "opened" 2])) := by decide +kernel
  constructor
  · obtain ⟨⟨w', c', calls⟩, hrun, hx⟩ := Option.map_eq_some_iff.mp hout
    simp only [Prod.mk.injEq] at hx
    obtain ⟨hlength, hopen, hlog⟩ := hx
    obtain ⟨-, ts, c₁, -, hmatch, hlines⟩ := (publish_log_well_nested bodies 3).1 hrun
    have hsome : calls ≠ [] := List.ne_nil_of_length_pos (by omega)
    have hlogged := (hlines (by decide)).2 hsome hopen
    rw [hlength] at hlogged
    have hinside : CallTree.linesOf ts = inside := by
      rw [hlog] at hlogged
      exact (List.append_cancel_left (List.append_cancel_right hlogged)).symm
    exact ⟨w', c', calls, ts, hrun, hlength, hmatch, hinside, hlogged⟩
  · obtain ⟨⟨w', c'⟩, hrun, hx⟩ := Option.map_eq_some_iff.mp hout'
    obtain ⟨hopen, hlog⟩ := Prod.mk.inj hx
    obtain ⟨ts, hts, hlogged, hbalanced⟩ := (publish_log_well_nested bodies 3).2 hrun
    have stays := hts.not_dropped (of_decide_eq_true hopen)
    refine ⟨w', c', ts, hrun, hts, hbalanced stays, ?_⟩
    exact List.append_cancel_left (hlogged.symm.trans hlog)

end EventWiring
