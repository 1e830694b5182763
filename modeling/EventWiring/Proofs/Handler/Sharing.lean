import EventWiring.Handler.SharedBinders

/-! Sharing binders. Whatever was requested and bound before, the shared binder of a
target type is what its model resolves to. The first one that resolves stays: no
later use resolves the type again. A type that does not resolve changes nothing but
the log. -/
namespace EventWiring

variable {ι A : Type} [DecidableEq ι] {T : ι → Type}

@[simp] theorem StoredBinder.downcast?_self (type : ι) (shared : SharedBinder (T type) A) :
    (⟨type, shared⟩ : StoredBinder T A).downcast? type = some shared := by
  simp [downcast?]

namespace SharedBinders

variable {b : SharedBinders T A} {type : ι}

/-- One more binder, under a number that no other has. -/
def adding (b : SharedBinders T A) (type : ι) (binder : EventBinder (T type) A) :
    SharedBinders T A :=
  ⟨b.entries ++ [(type, ⟨type, ⟨b.made, binder⟩⟩)], b.made + 1⟩

theorem lookup_adding (h : b.entries.lookup type = none) (binder : EventBinder (T type) A)
    (other : ι) :
    (b.adding type binder).entries.lookup other =
      if other = type then some ⟨type, ⟨b.made, binder⟩⟩ else b.entries.lookup other := by
  by_cases ho : other = type
  · subst ho
    simp [adding, List.lookup_append, h]
  · have hb : (other == type) = false := beq_false_of_ne ho
    simp [adding, List.lookup_append, List.lookup_cons, hb, ho]

theorem find?_adding_self (h : b.entries.lookup type = none) (binder : EventBinder (T type) A) :
    (b.adding type binder).find? type = some ⟨b.made, binder⟩ := by
  simp [find?, lookup_adding h]

theorem find?_adding_ne (h : b.entries.lookup type = none) (binder : EventBinder (T type) A)
    {other : ι} (ho : other ≠ type) : (b.adding type binder).find? other = b.find? other := by
  simp [find?, lookup_adding h, ho]

/-! ### What a request does -/

theorem request_of_find? {shared : SharedBinder (T type) A} (h : b.find? type = some shared)
    (model : TypeModel (T type) A) : b.request type model = ⟨b, .ok shared, false, []⟩ := by
  simp only [request, h]

theorem request_of_error {model : TypeModel (T type) A} {e : ResolveError}
    (h : b.find? type = none) (he : EventBinder.ofModel none model = .error e) :
    b.request type model = ⟨b, .error e, true, [.rejected model.name e]⟩ := by
  cases hs : model.resolve none with
  | ok hs' => simp [EventBinder.ofModel, hs, Except.map] at he
  | error e' =>
    obtain rfl : e' = e := by simpa [EventBinder.ofModel, hs, Except.map] using he
    simp [request, h, TypeModel.resolveLogged, hs, TypeModel.resolutionEntry]

theorem request_of_ok {model : TypeModel (T type) A} {binder : EventBinder (T type) A}
    (h : b.entries.lookup type = none) (hb : EventBinder.ofModel none model = .ok binder) :
    b.request type model = ⟨b.adding type binder, .ok ⟨b.made, binder⟩, true,
      [.resolved model.name binder.descriptors.length]⟩ := by
  cases hs : model.resolve none with
  | error e => simp [EventBinder.ofModel, hs, Except.map] at hb
  | ok hs' =>
    obtain rfl : ⟨model.name, hs'⟩ = binder := by
      simpa [EventBinder.ofModel, hs, Except.map] using hb
    simp [request, find?, h, TypeModel.resolveLogged, hs, TypeModel.resolutionEntry, keep, adding]

/-! ### The store -/

variable {models : ∀ type, TypeModel (T type) A}

/-- What is remembered for a type is a binder of that type, the one that its model
resolves to. The numbers tell binders apart. -/
structure Faithful (models : ∀ type, TypeModel (T type) A) (b : SharedBinders T A) : Prop where
  entry : ∀ {type stored}, b.entries.lookup type = some stored →
    ∃ shared, stored = ⟨type, shared⟩ ∧
      EventBinder.ofModel none (models type) = .ok shared.binder ∧ shared.serial < b.made
  distinct : ∀ {type other shared shared'}, b.find? type = some shared →
    b.find? other = some shared' → type ≠ other → shared.serial ≠ shared'.serial

namespace Faithful

theorem empty : Faithful models empty := ⟨nofun, nofun⟩

theorem of_find? (h : b.Faithful models) {shared : SharedBinder (T type) A}
    (hs : b.find? type = some shared) :
    EventBinder.ofModel none (models type) = .ok shared.binder ∧ shared.serial < b.made := by
  obtain ⟨stored, hl, hd⟩ := Option.bind_eq_some_iff.mp hs
  obtain ⟨shared', rfl, hok, hlt⟩ := h.entry hl
  simp only [StoredBinder.downcast?_self, Option.some.injEq] at hd
  exact hd ▸ ⟨hok, hlt⟩

/-- No entry is there that could not be taken out. -/
theorem lookup_eq_none (h : b.Faithful models) (hn : b.find? type = none) :
    b.entries.lookup type = none := by
  cases hl : b.entries.lookup type with
  | none => rfl
  | some stored =>
    obtain ⟨shared, rfl, -⟩ := h.entry hl
    simp [find?, hl] at hn

theorem adding (h : b.Faithful models) (hl : b.entries.lookup type = none)
    {binder : EventBinder (T type) A}
    (hb : EventBinder.ofModel none (models type) = .ok binder) :
    (b.adding type binder).Faithful models := by
  constructor
  · intro other stored hs
    rw [lookup_adding hl] at hs
    by_cases ho : other = type
    · subst ho
      obtain rfl := Option.some.inj ((if_pos rfl).symm.trans hs)
      exact ⟨_, rfl, hb, Nat.lt_succ_self _⟩
    · obtain ⟨shared, rfl, hok, hlt⟩ := h.entry ((if_neg ho).symm.trans hs)
      exact ⟨shared, rfl, hok, Nat.lt_succ_of_lt hlt⟩
  · intro one other shared shared' hs hs' hne
    -- the new number is above all the others
    by_cases h₁ : one = type
    · subst h₁
      rw [find?_adding_self hl] at hs
      rw [find?_adding_ne hl binder (Ne.symm hne)] at hs'
      obtain rfl := Option.some.inj hs
      exact (Nat.ne_of_lt (h.of_find? hs').2).symm
    · rw [find?_adding_ne hl binder h₁] at hs
      by_cases h₂ : other = type
      · subst h₂
        rw [find?_adding_self hl] at hs'
        obtain rfl := Option.some.inj hs'
        exact Nat.ne_of_lt (h.of_find? hs).2
      · rw [find?_adding_ne hl binder h₂] at hs'
        exact h.distinct hs hs' hne

/-- What holds if a request finds the binder, if it fails, and if it makes one. -/
theorem request_ind (h : b.Faithful models) {P : SharedRequest T A type → Prop}
    (found : ∀ shared, b.find? type = some shared → P ⟨b, .ok shared, false, []⟩)
    (failed : ∀ e, b.find? type = none → EventBinder.ofModel none (models type) = .error e →
      P ⟨b, .error e, true, [.rejected (models type).name e]⟩)
    (made : ∀ binder, b.entries.lookup type = none → b.find? type = none →
      EventBinder.ofModel none (models type) = .ok binder →
        P ⟨b.adding type binder, .ok ⟨b.made, binder⟩, true,
          [.resolved (models type).name binder.descriptors.length]⟩) :
    P (b.request type (models type)) := by
  cases hs : b.find? type with
  | some shared =>
    rw [request_of_find? hs]
    exact found shared hs
  | none =>
    cases hm : EventBinder.ofModel none (models type) with
    | error e =>
      rw [request_of_error hs hm]
      exact failed e hs hm
    | ok binder =>
      have hl := h.lookup_eq_none hs
      rw [request_of_ok hl hm]
      exact made binder hl hs hm

theorem request (h : b.Faithful models) (type : ι) :
    (b.request type (models type)).binders.Faithful models := by
  refine h.request_ind (P := fun r => r.binders.Faithful models) ?_ ?_ ?_
  · exact fun _ _ => h
  · exact fun _ _ _ => h
  · exact fun binder hl _ hm => h.adding hl hm

/-- A request leaves what is remembered for other types. -/
theorem find?_request_ne (h : b.Faithful models) {other : ι} (ho : other ≠ type) :
    (b.request type (models type)).binders.find? other = b.find? other := by
  refine h.request_ind (P := fun r => r.binders.find? other = b.find? other) ?_ ?_ ?_
  · exact fun _ _ => rfl
  · exact fun _ _ _ => rfl
  · exact fun binder hl _ _ => find?_adding_ne hl binder ho

/-- A request remembers what it gives. -/
theorem find?_request_self (h : b.Faithful models) (type : ι) :
    (b.request type (models type)).binders.find? type =
      (b.request type (models type)).result.toOption := by
  refine h.request_ind (P := fun r => r.binders.find? type = r.result.toOption) ?_ ?_ ?_
  · exact fun shared hs => hs
  · exact fun e hn _ => hn
  · exact fun binder hl _ _ => find?_adding_self hl binder

theorem result_request (h : b.Faithful models) (type : ι) :
    (b.request type (models type)).result.map SharedBinder.binder =
      EventBinder.ofModel none (models type) := by
  refine h.request_ind (P := fun r => r.result.map SharedBinder.binder = _) ?_ ?_ ?_
  · exact fun shared hs => (h.of_find? hs).1.symm
  · exact fun e _ hm => hm.symm
  · exact fun binder _ _ hm => hm.symm

/-- What is remembered stays. -/
theorem find?_request (h : b.Faithful models) (type : ι) {other : ι}
    {shared : SharedBinder (T other) A} (hs : b.find? other = some shared) :
    (b.request type (models type)).binders.find? other = some shared := by
  by_cases ho : other = type
  · subst ho
    rw [request_of_find? hs]
    exact hs
  · rw [h.find?_request_ne ho]
    exact hs

/-- What a request gives is another binder than the ones of other types. -/
theorem serial_ne (h : b.Faithful models) {other : ι} (ho : other ≠ type)
    {one : SharedBinder (T type) A} {two : SharedBinder (T other) A}
    (hone : b.find? type = some one) (htwo : (b.request other (models other)).result = .ok two) :
    one.serial ≠ two.serial := by
  have hother := h.find?_request_self other
  rw [htwo] at hother
  exact (h.request other).distinct (h.find?_request other hone) hother ho.symm

theorem request_error (h : b.Faithful models) {e : ResolveError}
    (he : EventBinder.ofModel none (models type) = .error e) :
    b.request type (models type) = ⟨b, .error e, true, [.rejected (models type).name e]⟩ := by
  refine request_of_error ?_ he
  cases hs : b.find? type with
  | none => rfl
  | some shared =>
    have hok := (h.of_find? hs).1
    rw [he] at hok
    cases hok

/-- A binder that resolves is given, and made if it was not there. -/
theorem request_ok (h : b.Faithful models) {binder : EventBinder (T type) A}
    (hb : EventBinder.ofModel none (models type) = .ok binder) :
    let r := b.request type (models type)
    ∃ shared, shared.binder = binder ∧ r.result = .ok shared ∧
      (r.consulted = true ↔ b.find? type = none) ∧
      r.log =
        if r.consulted then [.resolved (models type).name binder.descriptors.length] else [] := by
  refine h.request_ind (P := fun r => ∃ shared, shared.binder = binder ∧ r.result = .ok shared ∧
    (r.consulted = true ↔ b.find? type = none) ∧
    r.log = if r.consulted then [.resolved (models type).name binder.descriptors.length] else [])
    ?_ ?_ ?_
  · intro shared hs
    have hok := (h.of_find? hs).1
    rw [hb, Except.ok.injEq] at hok
    exact ⟨shared, hok.symm, by simp [hs]⟩
  · intro e _ he
    rw [hb] at he
    cases he
  · intro made _ hn hm
    obtain rfl : binder = made := Except.ok.inj (hb.symm.trans hm)
    exact ⟨⟨b.made, binder⟩, rfl, by simp [hn]⟩

end Faithful

end SharedBinders

/-! ### Histories -/

namespace Process

/-- What is done in a process: a shared binder is requested, a target is bound by one,
or something else happens to the buses. -/
inductive Call (T : ι → Type) (A : Type) where
  | shared (type : ι)
  | bindTarget (type : ι) (bus : BusId) (target : Shared (T type))
  | elsewhere (act : System (Callback A) → System (Callback A))

/-- The target type whose binder a call uses. -/
def Call.type? : Call T A → Option ι
  | shared type => some type
  | bindTarget type _ _ => some type
  | elsewhere _ => none

def step (models : ∀ type, TypeModel (T type) A) (p : Process T A) : Call T A → Process T A
  | .shared type => (p.shared type (models type)).1
  | .bindTarget type bus target => (p.bindTarget type (models type) bus target).1
  | .elsewhere act => { p with system := act p.system }

/-- A history of calls, with what a type's model says being always the same. -/
def run (models : ∀ type, TypeModel (T type) A) (p : Process T A) (calls : List (Call T A)) :
    Process T A :=
  calls.foldl (step models) p

variable {models : ∀ type, TypeModel (T type) A} {p : Process T A} {type : ι}

theorem shared_of_find? {shared : SharedBinder (T type) A}
    (h : p.binders.find? type = some shared) (model : TypeModel (T type) A) :
    p.shared type model = (p, ⟨p.binders, .ok shared, false, []⟩) := by
  simp [Process.shared, SharedBinders.request_of_find? h, System.report]

theorem bindTarget_of_error {model : TypeModel (T type) A} {e : ResolveError}
    (h : (p.shared type model).2.result = .error e) (bus : BusId) (target : Shared (T type)) :
    p.bindTarget type model bus target = ((p.shared type model).1, .error e) := by
  simp only [bindTarget, h]

theorem bindTarget_of_ok {model : TypeModel (T type) A} {shared : SharedBinder (T type) A}
    (h : (p.shared type model).2.result = .ok shared) (bus : BusId) (target : Shared (T type)) :
    p.bindTarget type model bus target =
      let q := (p.shared type model).1
      let bound := q.system.bind bus shared.binder target
      (⟨q.binders, bound.1⟩, .ok bound.2) := by
  simp only [bindTarget, h]

/-- Binding a target uses the shared binder as requesting it does. -/
theorem binders_bindTarget (model : TypeModel (T type) A) (bus : BusId)
    (target : Shared (T type)) :
    (p.bindTarget type model bus target).1.binders = (p.binders.request type model).binders := by
  cases h : (p.shared type model).2.result with
  | error e => rw [bindTarget_of_error h]; rfl
  | ok shared => rw [bindTarget_of_ok h]; rfl

theorem binders_step (models : ∀ type, TypeModel (T type) A) (p : Process T A) (c : Call T A) :
    (p.step models c).binders =
      match c.type? with
      | none => p.binders
      | some type => (p.binders.request type (models type)).binders := by
  cases c with
  | shared type => rfl
  | bindTarget type bus target => exact binders_bindTarget ..
  | elsewhere act => rfl

theorem faithful_step (h : p.binders.Faithful models) (c : Call T A) :
    (p.step models c).binders.Faithful models := by
  rw [binders_step]
  split
  · exact h
  · exact h.request _

theorem faithful_run (h : p.binders.Faithful models) (calls : List (Call T A)) :
    (p.run models calls).binders.Faithful models := by
  induction calls generalizing p with
  | nil => exact h
  | cons c rest ih => exact ih (faithful_step h c)

/-- What is remembered stays throughout a history. -/
theorem find?_run (h : p.binders.Faithful models) {shared : SharedBinder (T type) A}
    (hs : p.binders.find? type = some shared) (calls : List (Call T A)) :
    (p.run models calls).binders.find? type = some shared := by
  induction calls generalizing p with
  | nil => exact hs
  | cons c rest ih =>
    refine ih (faithful_step h c) ?_
    rw [binders_step]
    split
    · exact hs
    · exact h.find?_request _ hs

/-- A type that resolves has its binder once a call has used it, and not before. -/
theorem isSome_find?_run (h : p.binders.Faithful models) {binder : EventBinder (T type) A}
    (hb : EventBinder.ofModel none (models type) = .ok binder) (calls : List (Call T A)) :
    ((p.run models calls).binders.find? type).isSome ↔
      (p.binders.find? type).isSome ∨ ∃ c ∈ calls, c.type? = some type := by
  induction calls generalizing p with
  | nil => simp [run]
  | cons c rest ih =>
    refine (ih (faithful_step h c)).trans ?_
    rw [binders_step]
    cases hc : c.type? with
    | none => simp [hc]
    | some used =>
      by_cases hu : type = used
      · subst hu
        have hgiven := h.result_request type
        rw [hb] at hgiven
        cases hr : (p.binders.request type (models type)).result with
        | error e => simp [hr, Except.map] at hgiven
        | ok shared => simp [h.find?_request_self, hr, Except.toOption, hc]
      · simp [h.find?_request_ne hu, hc, Ne.symm hu]

theorem find?_run_eq_none_iff {binder : EventBinder (T type) A}
    (hb : EventBinder.ofModel none (models type) = .ok binder) (system : System (Callback A))
    (calls : List (Call T A)) :
    ((run models ⟨.empty, system⟩ calls).binders.find? type = none) ↔
      ∀ c ∈ calls, c.type? ≠ some type := by
  have hstart : (SharedBinders.empty : SharedBinders T A).find? type = none := rfl
  rw [← Option.not_isSome_iff_eq_none, isSome_find?_run .empty hb]
  simp [hstart]

end Process

/-! ### The law of shared binders -/

/-- After any history of requests and bindings, whatever else was done to the buses
meanwhile, the shared binder of a type is what the type's model resolves to. If that
fails, the model is resolved in vain each time: no binder and no bus changes, and the
failure is all that is added to the log. If it does not, the model is resolved by the
first call for the type alone, which logs it; all later calls have the binder that this
one gave, and a target is bound by it. Other types keep their binders, which are others. -/
theorem shared_binders_resolve_once (models : ∀ type, TypeModel (T type) A)
    (system : System (Callback A)) (before : List (Process.Call T A)) (type : ι) :
    let p := (Process.mk .empty system).run models before
    let fresh := EventBinder.ofModel none (models type)
    let q := (p.shared type (models type)).1
    let r := (p.shared type (models type)).2
    r.result.map SharedBinder.binder = fresh ∧
    q.system = { p.system with log := q.system.log } ∧ q.system.buses = p.system.buses ∧
    (∀ e, fresh = .error e →
      r.consulted = true ∧ q.binders = p.binders ∧
      q.system.log = p.system.log ++ [.rejected (models type).name e] ∧
      ∀ bus target, p.bindTarget type (models type) bus target = (q, .error e)) ∧
    (∀ binder, fresh = .ok binder →
      (r.consulted = true ↔ ∀ c ∈ before, c.type? ≠ some type) ∧
      q.system.log = p.system.log ++
        (if r.consulted then [.resolved (models type).name binder.descriptors.length] else []) ∧
      (∀ bus target, p.bindTarget type (models type) bus target =
        let bound := q.system.bind bus binder target
        (⟨q.binders, bound.1⟩, .ok bound.2)) ∧
      ∀ (now : System (Callback A)) (later : List (Process.Call T A)),
        let p' := (Process.mk q.binders now).run models later
        p'.shared type (models type) = (p', ⟨p'.binders, r.result, false, []⟩)) ∧
    ∀ other ≠ type, q.binders.find? other = p.binders.find? other ∧
      ∀ one two, r.result = .ok one → (q.shared other (models other)).2.result = .ok two →
        one.serial ≠ two.serial := by
  intro p fresh q r
  have h : p.binders.Faithful models := Process.faithful_run SharedBinders.Faithful.empty before
  have hq : q.binders.Faithful models := h.request type
  have hkept : q.binders.find? type = r.result.toOption := h.find?_request_self type
  have hlog : q.system.log = p.system.log ++ r.log := rfl
  refine ⟨h.result_request type, rfl, rfl, fun e he => ?_, fun binder hb => ?_,
    fun other ho => ⟨?_, ?_⟩⟩
  · have hr : r = _ := h.request_error he
    rw [hr] at hlog
    exact ⟨congrArg SharedRequest.consulted hr, congrArg SharedRequest.binders hr, hlog,
      Process.bindTarget_of_error (congrArg SharedRequest.result hr)⟩
  · obtain ⟨shared, rfl, hresult, hconsulted, hresolved⟩ := h.request_ok hb
    refine ⟨hconsulted.trans (Process.find?_run_eq_none_iff hb system before),
      hlog.trans (congrArg _ hresolved), Process.bindTarget_of_ok hresult, fun now later => ?_⟩
    rw [show r.result = .ok shared from hresult] at hkept ⊢
    have hlater := Process.find?_run (p := ⟨q.binders, now⟩) hq hkept later
    exact Process.shared_of_find? hlater _
  · exact h.find?_request_ne ho
  · intro one two hone htwo
    rw [hone] at hkept
    exact hq.serial_ne ho hkept htwo

/-- Counters resolve, and the others do not. The binder of counters is the one by which
the first of them was bound, also after a failure. -/
theorem shared_binders_resolve_once_beside_failure :
    let opened : ConcreteType := ⟨1, "Opened"⟩
    let T : Bool → Type := fun resolves => cond resolves Nat Unit
    let counter : TypeModel Nat Nat := (TypeModel.new "Counter").method
      (.handlesEvent (.new "on_opened") (.concrete opened) fun n _ => n)
    let broken : TypeModel Unit Nat :=
      (TypeModel.new "Broken").method (.annotated (.new "on_lost") ⟨[.named "Lost"]⟩)
    let models : ∀ type, TypeModel (T type) Nat := fun | true => counter | false => broken
    let e : ResolveError := ⟨"Broken", "on_lost", .unknownEventType "Lost"⟩
    let bus : System (Callback Nat) := ((System.new .empty).openBus .default).1
    let before : List (Process.Call T Nat) := [.shared false, .bindTarget true 0 ⟨0, (5 : Nat)⟩]
    let p := (Process.mk .empty bus).run models before
    let q := (p.shared false (models false)).1
    p.system.total 0 = 1 ∧ q.binders = p.binders ∧ q.system.buses = p.system.buses ∧
      q.system.log = p.system.log ++ [.rejected "Broken" e] ∧
      (q.shared true (models true)).2.consulted = false ∧
      (q.shared true (models true)).2.result.map SharedBinder.binder =
        EventBinder.ofModel none counter := by
  intro opened T counter broken models e bus before p q
  obtain ⟨-, -, hbuses, hfailed, -⟩ := shared_binders_resolve_once models bus before false
  obtain ⟨-, hbinders, hlog, -⟩ := hfailed e rfl
  obtain ⟨hfresh, -, -, -, hok, -⟩ :=
    shared_binders_resolve_once models bus (before ++ [.shared false]) true
  obtain ⟨hconsulted, -⟩ := hok _ rfl
  refine ⟨by decide, hbinders, hbuses, hlog, Bool.eq_false_iff.mpr fun hc => ?_, hfresh⟩
  exact hconsulted.mp hc (.bindTarget true 0 ⟨0, (5 : Nat)⟩) (.tail _ (.head _)) rfl

end EventWiring
