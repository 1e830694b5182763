import EventWiring.Proofs.Bus.Alike

/-! Publishing with callbacks that act. The body of a callback is a program: it
makes requests of the buses, publishes among them, and goes on as the answers tell.
Callbacks may invoke each other without end, so a publish need not return. One that
does has invoked what was filed when it began, and the buses are as if the requests
of all bodies had been made one after the other. -/
namespace EventWiring

variable {A M : Type}

/-! ### Bodies of callbacks -/

/-- A program ends, or makes a request and goes on with the answer. The programs of
all callbacks share a memory, which others may have changed when the answer comes. -/
inductive Program (A M : Type) : Type 1 where
  | done (memory : M)
  | ask (memory : M) (request : Request A) (next : Answer A → M → Program A M)

/-- What each callback does with an event. -/
abbrev Bodies (A M : Type) := Callback A → Event → M → Program A M

/-- Runs a callback, unless the run does not end. -/
abbrev Runner (A M : Type) := Callback A → Event → M → Client A → Option (M × Client A)

namespace Runner

/-- Invokes a callback and notes it last. After a run that does not end nothing is
invoked. -/
def noted (invoke : Runner A M) (k : Callback A) (e : Event)
    (w : Option (M × Holdings Token × List (Invocation A)) × System (Callback A)) :
    Option (M × Holdings Token × List (Invocation A)) × System (Callback A) :=
  match w.1 with
  | none => w
  | some (m, held, calls) =>
    match invoke k e m ⟨held, w.2⟩ with
    | none => (none, w.2)
    | some (m, c) => (some (m, c.held, calls ++ [⟨k, e⟩]), c.system)

/-- Invokes callbacks in order. -/
def deliver (invoke : Runner A M) (e : Event) (ks : List (Callback A))
    (w : Option (M × Holdings Token × List (Invocation A)) × System (Callback A)) :
    Option (M × Holdings Token × List (Invocation A)) × System (Callback A) :=
  ks.foldl (fun w k => noted invoke k e w) w

/-- Publishes an event and notes the callbacks that this publish itself invokes. -/
def publish (invoke : Runner A M) (id : BusId) (e : Event) (m : M) (c : Client A) :
    Option (M × Client A × List (Invocation A)) :=
  let w := EventWiring.publish (noted invoke) id e (some (m, c.held, []), c.system)
  w.1.map fun (m, held, calls) => (m, ⟨held, w.2⟩, calls)

/-- Makes one request. -/
def ask (invoke : Runner A M) (m : M) (c : Client A) :
    Request A → Option (M × Client A × Answer A)
  | .publish bus e =>
    match c.held.bus? bus with
    | none => some (m, c, .noSuch)
    | some id =>
      (publish invoke id e m c).map fun (m, c, calls) => (m, c, .invoked calls)
  | r => some (m, c.step Client.idle r)

end Runner

/-- Runs a program. -/
def Program.run (invoke : Runner A M) : Program A M → Client A → Option (M × Client A)
  | .done m, c => some (m, c)
  | .ask m r next, c =>
    (Runner.ask invoke m c r).bind fun (m, c, a) => (next a m).run invoke c

namespace Bodies

/-- Runs callbacks as long as publishes are nested less deep than a bound. -/
def upTo (bodies : Bodies A M) : Nat → Runner A M
  | 0 => fun _ _ _ _ => none
  | depth + 1 => fun k e m c => (bodies k e m).run (upTo bodies depth) c

/-- A publish returns, with the memory, the program and the invocations given last. -/
def Publishes (bodies : Bodies A M) (id : BusId) (e : Event) (m : M) (c : Client A) (m' : M)
    (c' : Client A) (calls : List (Invocation A)) : Prop :=
  ∃ depth, Runner.publish (bodies.upTo depth) id e m c = some (m', c', calls)

end Bodies

/-! ### One request after the other -/

def Request.isPublish : Request A → Bool
  | .publish _ _ => true
  | _ => false

/-- What is left to do: the rest of a program, or callbacks that an event is still
to be delivered to. -/
inductive Task (A M : Type) : Type 1 where
  | body (p : Program A M)
  | deliver (e : Event) (ks : List (Callback A)) (m : M)

/-- A task ends with a memory, and these are its requests in order. A publish is not
among them: in its place stand the requests of the callbacks that are filed for the
event's type when it begins, each of which runs once and in order. -/
inductive Makes (bodies : Bodies A M) :
    Task A M → Client A → List (Request A) → M → Prop where
  | done (m : M) (c : Client A) : Makes bodies (.body (.done m)) c [] m
  | request {m m' : M} {c : Client A} {r : Request A} {next : Answer A → M → Program A M}
    {rs : List (Request A)} (plain : r.isPublish = false)
    (rest : Makes bodies (.body (next (c.step Client.idle r).2 m)) (c.step Client.idle r).1 rs m') :
    Makes bodies (.body (.ask m r next)) c (r :: rs) m'
  | nowhere {m m' : M} {c : Client A} {bus : Nat} {e : Event}
    {next : Answer A → M → Program A M} {rs : List (Request A)} (unnamed : c.held.bus? bus = none)
    (rest : Makes bodies (.body (next .noSuch m)) c rs m') :
    Makes bodies (.body (.ask m (.publish bus e) next)) c rs m'
  | publish {m m₁ m' : M} {c : Client A} {bus : Nat} {e : Event} {id : BusId}
    {next : Answer A → M → Program A M} {rs rs' : List (Request A)}
    (named : c.held.bus? bus = some id)
    (callbacks : Makes bodies (.deliver e (c.system.filedFor id e.eventType) m) c rs m₁)
    (rest : Makes bodies
      (.body (next (.invoked ((c.system.filedFor id e.eventType).map (⟨·, e⟩))) m₁))
      (c.run Client.idle rs) rs' m') :
    Makes bodies (.body (.ask m (.publish bus e) next)) c (rs ++ rs') m'
  | delivered (e : Event) (m : M) (c : Client A) : Makes bodies (.deliver e [] m) c [] m
  | callback {e : Event} {k : Callback A} {ks : List (Callback A)} {m m₁ m' : M} {c : Client A}
    {rs rs' : List (Request A)} (body : Makes bodies (.body (bodies k e m)) c rs m₁)
    (others : Makes bodies (.deliver e ks m₁) (c.run Client.idle rs) rs' m') :
    Makes bodies (.deliver e (k :: ks) m) c (rs ++ rs') m'

/-! ### What runs -/

theorem Request.eq_publish {r : Request A} (h : r.isPublish = true) :
    ∃ bus e, r = .publish bus e := by
  cases r with
  | publish bus e => exact ⟨bus, e, rfl⟩
  | _ => cases h

namespace Runner

variable (invoke : Runner A M)

theorem ask_of_plain (m : M) (c : Client A) {r : Request A} (h : r.isPublish = false) :
    invoke.ask m c r = some (m, c.step Client.idle r) := by
  cases r with
  | publish bus e => cases h
  | _ => rfl

/-- After a run that does not end nothing more happens. -/
theorem deliver_none (e : Event) (ks : List (Callback A)) (s : System (Callback A)) :
    invoke.deliver e ks (none, s) = (none, s) := by
  induction ks with
  | nil => rfl
  | cons k rest ih => exact ih

theorem deliver_cons {e : Event} {k : Callback A} (ks : List (Callback A)) {m m' : M}
    {held : Holdings Token} {s : System (Callback A)} {c' : Client A}
    (h : invoke k e m ⟨held, s⟩ = some (m', c')) (calls : List (Invocation A)) :
    invoke.deliver e (k :: ks) (some (m, held, calls), s) =
      invoke.deliver e ks (some (m', c'.held, calls ++ [⟨k, e⟩]), c'.system) := by
  rw [deliver, List.foldl_cons]
  simp only [noted, h]
  rfl

/-- If one run does not end, neither does the delivery. -/
theorem deliver_cons_none {e : Event} {k : Callback A} (ks : List (Callback A)) {m : M}
    {held : Holdings Token} {s : System (Callback A)} (h : invoke k e m ⟨held, s⟩ = none)
    (calls : List (Invocation A)) :
    invoke.deliver e (k :: ks) (some (m, held, calls), s) = (none, s) := by
  rw [deliver, List.foldl_cons]
  simp only [noted, h]
  exact invoke.deliver_none e ks s

/-- The publish delivers to the callbacks that it finds when it begins. -/
theorem publish_eq (id : BusId) (e : Event) (m : M) (c : Client A) :
    invoke.publish id e m c =
      let subs := c.system.subscribersOf id e
      let w := invoke.deliver e (subs.map (·.callback))
        (some (m, c.held, []), (c.system.beginPublish id e).1)
      w.1.map fun (m, held, calls) =>
        (m, ⟨held, if subs.isEmpty then w.2 else w.2.endPublish id e subs.length⟩, calls) := by
  have hsubs := c.system.snapshot_beginPublish id e
  unfold publish EventWiring.publish deliver
  dsimp only
  rw [List.foldl_map, ← hsubs]
  cases hempty : (c.system.beginPublish id e).2 with
  | nil => rfl
  | cons sub rest => rfl

end Runner

theorem System.Alike.ended (s : System (Callback A)) (id : BusId) (e : Event)
    (subs : List (Subscription (Callback A))) :
    (if subs.isEmpty then s else s.endPublish id e subs.length).Alike s := by
  split
  · exact .refl s
  · exact .endPublish ..

/-! ### What returns was made -/

/-- What the runner returns with, the bodies of the callbacks make. This is asked of
any state that the actual one is like, since requests are counted from a state in
which nothing is being published. -/
def Sound (bodies : Bodies A M) (invoke : Runner A M) : Prop :=
  ∀ {k e m c m' c'}, invoke k e m c = some (m', c') → ∀ {d : Client A}, d.Reached → c.Alike d →
    ∃ rs, Makes bodies (.body (bodies k e m)) d rs m' ∧ c'.Alike (d.run Client.idle rs)

namespace Sound

variable {bodies : Bodies A M} {invoke : Runner A M} {e : Event} {m m' : M} {d : Client A}

theorem deliver (h : Sound bodies invoke) {ks : List (Callback A)} {held held' : Holdings Token}
    {calls calls' : List (Invocation A)} {s s' : System (Callback A)}
    (hrun : invoke.deliver e ks (some (m, held, calls), s) = (some (m', held', calls'), s'))
    (reached : d.Reached) (alike : (⟨held, s⟩ : Client A).Alike d) :
    calls' = calls ++ ks.map (⟨·, e⟩) ∧
      ∃ rs, Makes bodies (.deliver e ks m) d rs m' ∧
        (⟨held', s'⟩ : Client A).Alike (d.run Client.idle rs) := by
  induction ks generalizing m held calls s d with
  | nil =>
    cases hrun
    exact ⟨(List.append_nil _).symm, [], .delivered .., alike⟩
  | cons k rest ih =>
    cases hk : invoke k e m ⟨held, s⟩ with
    | none =>
      rw [invoke.deliver_cons_none rest hk] at hrun
      cases hrun
    | some x =>
      obtain ⟨m₁, c₁⟩ := x
      rw [invoke.deliver_cons rest hk] at hrun
      obtain ⟨rs, hbody, halike⟩ := h hk reached alike
      obtain ⟨hcalls, rs', hothers, halike'⟩ := ih hrun (reached.run rs) halike
      refine ⟨?_, rs ++ rs', .callback hbody hothers, ?_⟩
      · rw [hcalls, List.append_assoc]
        rfl
      · rw [Client.run_append]
        exact halike'

theorem publish (h : Sound bodies invoke) {id : BusId} {c c' : Client A}
    {calls : List (Invocation A)} (hrun : invoke.publish id e m c = some (m', c', calls))
    (reached : d.Reached) (alike : c.Alike d) :
    calls = (d.system.filedFor id e.eventType).map (⟨·, e⟩) ∧
      ∃ rs, Makes bodies (.deliver e (d.system.filedFor id e.eventType) m) d rs m' ∧
        c'.Alike (d.run Client.idle rs) := by
  -- what the publish finds is what the table has for the type
  rw [invoke.publish_eq] at hrun
  dsimp only at hrun
  rw [alike.system.subscribersOf, reached.filedFor] at hrun
  obtain ⟨⟨m₁, held, calls₁⟩, hw, hc⟩ := Option.map_eq_some_iff.mp hrun
  cases hc
  have hbegun : (⟨c.held, (c.system.beginPublish id e).1⟩ : Client A).Alike d :=
    ⟨alike.held, (System.Alike.beginPublish ..).trans alike.system⟩
  obtain ⟨hcalls, rs, hmakes, halike⟩ := h.deliver (Prod.ext hw rfl) reached hbegun
  exact ⟨hcalls, rs, hmakes, halike.held, (System.Alike.ended ..).trans halike.system⟩

theorem program (h : Sound bodies invoke) {p : Program A M} {c c' : Client A}
    (hrun : p.run invoke c = some (m', c')) (reached : d.Reached) (alike : c.Alike d) :
    ∃ rs, Makes bodies (.body p) d rs m' ∧ c'.Alike (d.run Client.idle rs) := by
  -- on the program: the callbacks of a publish in it are left to `h`
  induction p generalizing c d with
  | done m =>
    cases hrun
    exact ⟨[], .done .., alike⟩
  | ask m r next ih =>
    obtain ⟨⟨m₁, c₁, a⟩, hask, hrest⟩ := Option.bind_eq_some_iff.mp hrun
    cases hr : r.isPublish with
    | false =>
      rw [invoke.ask_of_plain m c hr] at hask
      obtain ⟨rfl, hstep⟩ := Prod.mk.inj (Option.some.inj hask)
      obtain ⟨hnext, hanswer⟩ := alike.step r
      rw [hstep] at hnext hanswer
      obtain ⟨rs, hmakes, halike⟩ := ih _ _ hrest (reached.run [r]) hnext
      rw [show a = (d.step Client.idle r).2 from hanswer] at hmakes
      exact ⟨r :: rs, .request hr hmakes, halike⟩
    | true =>
      obtain ⟨bus, e, rfl⟩ := r.eq_publish hr
      have hbus : c.held.bus? bus = d.held.bus? bus := congrArg (·.bus? bus) alike.held
      cases hid : d.held.bus? bus with
      | none =>
        rw [Runner.ask, hbus, hid] at hask
        cases hask
        obtain ⟨rs, hmakes, halike⟩ := ih _ _ hrest reached alike
        exact ⟨rs, .nowhere hid hmakes, halike⟩
      | some id =>
        rw [Runner.ask, hbus, hid] at hask
        obtain ⟨⟨m₂, c₂, calls⟩, hpublish, hc⟩ := Option.map_eq_some_iff.mp hask
        cases hc
        obtain ⟨rfl, rs, hcallbacks, halike⟩ := h.publish hpublish reached alike
        obtain ⟨rs', hmakes, halike'⟩ := ih _ _ hrest (reached.run rs) halike
        refine ⟨rs ++ rs', .publish hid hcallbacks hmakes, ?_⟩
        rw [Client.run_append]
        exact halike'

end Sound

theorem Bodies.sound_upTo (bodies : Bodies A M) (depth : Nat) : Sound bodies (bodies.upTo depth) := by
  induction depth with
  | zero =>
    intro k e m c m' c' hrun
    cases hrun
  | succ depth ih =>
    intro k e m c m' c' hrun d reached alike
    exact ih.program hrun reached alike

/-- A publish whose callbacks act comes to a state that is also reached without any
callback doing anything. -/
theorem Bodies.Publishes.reached {bodies : Bodies A M} {id : BusId} {e : Event} {m m' : M}
    {c c' : Client A} {calls : List (Invocation A)}
    (h : bodies.Publishes id e m c m' c' calls) (hc : c.Reached) : c'.Reached := by
  obtain ⟨depth, hrun⟩ := h
  obtain ⟨-, rs, -, halike⟩ := Sound.publish (bodies.sound_upTo depth) hrun hc (.refl c)
  exact (hc.run rs).alike halike

/-! ### What is made returns -/

/-- From states that are alike the task is done, with the same requests and memory,
by every runner that goes deep enough. -/
def Ends (bodies : Bodies A M) (d : Client A) (rs : List (Request A)) (m' : M) :
    Task A M → Prop
  | .body p => ∃ depth, ∀ c : Client A, c.Alike d → ∃ c' : Client A,
      c'.Alike (d.run Client.idle rs) ∧
        ∀ deep, depth ≤ deep → p.run (bodies.upTo deep) c = some (m', c')
  | .deliver e ks m => ∃ depth, ∀ (c : Client A) calls, c.Alike d → ∃ c' : Client A,
      c'.Alike (d.run Client.idle rs) ∧ ∀ deep, depth ≤ deep →
        (bodies.upTo deep).deliver e ks (some (m, c.held, calls), c.system) =
          (some (m', c'.held, calls ++ ks.map (⟨·, e⟩)), c'.system)

variable {bodies : Bodies A M} {d : Client A} {rs : List (Request A)} {e : Event} {m m' : M}

/-- A publish returns if the delivery that it begins with ends. -/
theorem Ends.publish {id : BusId}
    (h : Ends bodies d rs m' (.deliver e (d.system.filedFor id e.eventType) m))
    (reached : d.Reached) :
    ∃ depth, ∀ c : Client A, c.Alike d → ∃ c' : Client A, c'.Alike (d.run Client.idle rs) ∧
      ∀ deep, depth ≤ deep → (bodies.upTo deep).publish id e m c =
        some (m', c', (d.system.filedFor id e.eventType).map (⟨·, e⟩)) := by
  obtain ⟨depth, h⟩ := h
  refine ⟨depth, fun c hc => ?_⟩
  have hbegun : (⟨c.held, (c.system.beginPublish id e).1⟩ : Client A).Alike d :=
    ⟨hc.held, (System.Alike.beginPublish ..).trans hc.system⟩
  obtain ⟨c', halike, hrun⟩ := h _ [] hbegun
  let subs := d.system.subscribersOf id e
  let ended := if subs.isEmpty then c'.system else c'.system.endPublish id e subs.length
  have hended : ended.Alike c'.system := .ended ..
  refine ⟨⟨c'.held, ended⟩, ⟨halike.held, hended.trans halike.system⟩, fun deep hdeep => ?_⟩
  rw [Runner.publish_eq]
  dsimp only
  rw [hc.system.subscribersOf, reached.filedFor, hrun deep hdeep]
  rfl

theorem Makes.ends {t : Task A M} (h : Makes bodies t d rs m') (reached : d.Reached) :
    Ends bodies d rs m' t := by
  -- a depth that is enough is found on the way, and any larger one is enough too
  induction h with
  | done m d => exact ⟨0, fun c hc => ⟨c, hc, fun _ _ => rfl⟩⟩
  | @request m m' d r next rs plain rest ih =>
    obtain ⟨depth, ih⟩ := ih (reached.run [r])
    refine ⟨depth, fun c hc => ?_⟩
    obtain ⟨hnext, hanswer⟩ := hc.step r
    obtain ⟨c', halike, hrun⟩ := ih _ hnext
    refine ⟨c', halike, fun deep hdeep => ?_⟩
    rw [Program.run, Runner.ask_of_plain _ m c plain, ← hrun deep hdeep, ← hanswer]
    rfl
  | @nowhere m m' d bus e next rs unnamed rest ih =>
    obtain ⟨depth, ih⟩ := ih reached
    refine ⟨depth, fun c hc => ?_⟩
    obtain ⟨c', halike, hrun⟩ := ih c hc
    refine ⟨c', halike, fun deep hdeep => ?_⟩
    rw [Program.run, Runner.ask, hc.held, unnamed, ← hrun deep hdeep]
    rfl
  | @publish m m₁ m' d bus e id next rs rs' named callbacks rest ih ih' =>
    obtain ⟨depth, ih⟩ := (ih reached).publish reached
    obtain ⟨depth', ih'⟩ := ih' (reached.run rs)
    refine ⟨max depth depth', fun c hc => ?_⟩
    obtain ⟨c₁, halike₁, hpublish⟩ := ih c hc
    obtain ⟨c', halike, hrun⟩ := ih' c₁ halike₁
    rw [Client.run_append]
    refine ⟨c', halike, fun deep hdeep => ?_⟩
    rw [Program.run, Runner.ask, hc.held, named]
    dsimp only
    rw [hpublish deep (by omega), ← hrun deep (by omega)]
    rfl
  | delivered e m d =>
    refine ⟨0, fun c calls hc => ⟨c, hc, fun deep _ => ?_⟩⟩
    rw [List.map_nil, List.append_nil]
    rfl
  | @callback e k ks m m₁ m' d rs rs' body others ih ih' =>
    obtain ⟨depth, ih⟩ := ih reached
    obtain ⟨depth', ih'⟩ := ih' (reached.run rs)
    -- one level more, for the body itself
    refine ⟨max (depth + 1) depth', fun c calls hc => ?_⟩
    obtain ⟨c₁, halike₁, hbody⟩ := ih c hc
    obtain ⟨c', halike, hothers⟩ := ih' c₁ (calls ++ [⟨k, e⟩]) halike₁
    rw [Client.run_append]
    refine ⟨c', halike, fun deep hdeep => ?_⟩
    obtain ⟨deeper, rfl⟩ : ∃ deeper, deep = deeper + 1 := ⟨deep - 1, by omega⟩
    have hk : bodies.upTo (deeper + 1) k e m ⟨c.held, c.system⟩ = some (m₁, c₁) :=
      hbody deeper (by omega)
    rw [Runner.deliver_cons _ ks hk, hothers _ (by omega), List.append_assoc]
    rfl

/-! ### The law of a publish -/

/-- A publish that returns has itself invoked the callbacks that were filed for the
event's type when it began, in order and each once, whatever their bodies did to the
buses meanwhile; and so has every publish inside it. The buses are then as if the
requests of the bodies had been made one after the other without any publish. A
publish whose callbacks all come to an end returns. -/
theorem publish_invokes_what_was_filed {c : Client A} (reached : c.Reached)
    (bodies : Bodies A M) (id : BusId) (e : Event) (m : M) :
    let filed := c.system.filedFor id e.eventType
    (∀ m' c' calls, bodies.Publishes id e m c m' c' calls →
      calls = filed.map (⟨·, e⟩) ∧
        ∃ rs, Makes bodies (.deliver e filed m) c rs m' ∧ c'.Alike (c.run Client.idle rs)) ∧
    ∀ rs m', Makes bodies (.deliver e filed m) c rs m' →
      ∃ c', bodies.Publishes id e m c m' c' (filed.map (⟨·, e⟩)) ∧
        c'.Alike (c.run Client.idle rs) := by
  intro filed
  constructor
  · intro m' c' calls hpublishes
    obtain ⟨depth, hrun⟩ := hpublishes
    have hsound : Sound bodies (bodies.upTo depth) := bodies.sound_upTo depth
    exact Sound.publish hsound hrun reached (.refl c)
  · intro rs m' hmakes
    obtain ⟨depth, hpublish⟩ := (hmakes.ends reached).publish reached
    obtain ⟨c', halike, hrun⟩ := hpublish c (.refl c)
    exact ⟨c', ⟨depth, hrun depth (Nat.le_refl _)⟩, halike⟩

/-- The first of two callbacks removes itself, subscribes a third and publishes the
event again. The second and the third take part in that publish, and then the second
in the first publish, which the third came too late for. -/
theorem publish_invokes_second_after_first :
    let opened : ConcreteType := ⟨1, "Opened"⟩
    let e : Event := ⟨opened, "opened", none, .null, ""⟩
    let bodies : Bodies Nat (List Nat) := fun k e m =>
      match k.run e with
      | some 1 =>
        .ask (m ++ [1]) (.remove 0) fun _ m =>
          .ask m (.subscribe 0 opened fun _ => 3) fun _ m => .ask m (.publish 0 e) fun _ m => .done m
      | a => .done (m ++ a.toList)
    let c := (Client.start .empty).run Client.idle
      [.openBus .default, .subscribe 0 opened fun _ => 1, .subscribe 0 opened fun _ => 2]
    let filed := c.system.filedFor 0 e.eventType
    filed.map (fun k => k.run e) = [some 1, some 2] ∧
      ∃ c', bodies.Publishes 0 e [] c [1, 2, 3, 2] c' (filed.map (⟨·, e⟩)) ∧
        ∃ rs, Makes bodies (.deliver e filed []) c rs [1, 2, 3, 2] ∧
          c'.Alike (c.run Client.idle rs) := by
  intro opened e bodies c filed
  have reached : c.Reached := ⟨.empty, _, .refl _⟩
  have hmemory : ((bodies.upTo 2).publish 0 e [] c).map (·.1) = some [1, 2, 3, 2] := by decide
  obtain ⟨⟨m, c', calls⟩, hrun, hm⟩ := Option.map_eq_some_iff.mp hmemory
  have hpublishes : bodies.Publishes 0 e [] c [1, 2, 3, 2] c' calls := ⟨2, hm ▸ hrun⟩
  obtain ⟨rfl, hmakes⟩ :=
    (publish_invokes_what_was_filed reached bodies 0 e []).1 _ _ _ hpublishes
  exact ⟨by decide, c', hpublishes, hmakes⟩

end EventWiring
