import EventWiring.Proofs.Handler.Overriding
import EventWiring.Proofs.Handler.Resolution

/-! Why a model does not resolve. A handler has to pass a row of checks, and any
number of them can fail; the fault that is reported is that of the first check
that does, of the first handler that has one. -/
namespace EventWiring

variable {T A : Type}

theorem error_bind_iff {ε α β : Type} {x : Except ε α} {f : α → Except ε β} {e : ε} :
    (x >>= f) = .error e ↔ x = .error e ∨ ∃ a, x = .ok a ∧ f a = .error e := by
  cases x <;> simp [bind, Except.bind]

namespace Resolution

/-! ### Checks -/

/-- A check that a handler has to pass. -/
inductive Check where
  | arity
  | parameter
  /-- An entry of the list stands for a type -/
  | known (r : EventRef)
  /-- that is concrete -/
  | concrete (r : EventRef)
  /-- and that the parameter takes. -/
  | assignable (r : EventRef)
  /-- Without a list, the parameter gives a type. -/
  | implied
  | invoker

/-- The checks of one entry of a list. -/
def entryChecks (r : EventRef) : List Check := [.known r, .concrete r, .assignable r]

/-- The checks of a handler, in order. -/
def checks (a : Annotation) : List Check :=
  [.arity, .parameter] ++ a.events.flatMap entryChecks ++ [.implied, .invoker]

theorem mem_events_of_known {a : Annotation} {r : EventRef} (h : .known r ∈ checks a) :
    r ∈ a.events := by
  simpa [checks, entryChecks] using h

/-- A check fails, and with which fault. Whether other checks fail has no say in
it. -/
inductive Fails (catalog : Option EventCatalog) (d : MethodDecl T A) (a : Annotation) :
    Check → HandlerFault → Prop where
  | arity (many : 1 < d.params.length) : Fails catalog d a .arity (.arity d.params.length)
  | parameter {name : String} (foreign : .foreign name ∈ d.params) :
    Fails catalog d a .parameter (.notAnEvent name)
  | unknown {name : String} (missing : ∀ c ∈ catalog, c.lookup name = .error .notFound) :
    Fails catalog d a (.known (.named name)) (.unknownEventType name)
  | ambiguous {name : String} {c : EventCatalog} (given : catalog = some c)
    (several : c.lookup name = .error .ambiguous) :
    Fails catalog d a (.known (.named name)) (.ambiguousEventType name)
  | abstractEvent {r : EventRef} {t : EventType} (names : Names catalog r t)
    (base : t.isAbstract = true) : Fails catalog d a (.concrete r) (.abstractEvent t.name)
  | notAssignable {r : EventRef} {t p : EventType} (names : Names catalog r t)
    (takes : .event p ∈ d.params) (refused : t.isAssignableTo p = false) :
    Fails catalog d a (.assignable r) (.notAssignable t.name p.name)
  | missingEventList (unlisted : a.events = []) (none : d.params = []) :
    Fails catalog d a .implied .missingEventList
  | abstractParameter {p : EventType} (unlisted : a.events = []) (takes : .event p ∈ d.params)
    (base : p.isAbstract = true) : Fails catalog d a .implied (.abstractParameter p.name)
  | missingInvoker (none : d.invoker = none) : Fails catalog d a .invoker .missingInvoker

/-- The first check of a row that fails, fails with a fault. -/
inductive FirstFault (fails : Check → HandlerFault → Prop) : List Check → HandlerFault → Prop where
  | here {c : Check} {rest : List Check} {fault : HandlerFault} (failed : fails c fault) :
    FirstFault fails (c :: rest) fault
  | later {c : Check} {rest : List Check} {fault : HandlerFault} (passed : ∀ f, ¬fails c f)
    (first : FirstFault fails rest fault) : FirstFault fails (c :: rest) fault

namespace FirstFault

variable {fails : Check → HandlerFault → Prop} {cs : List Check} {fault : HandlerFault}

theorem exists_mem (h : FirstFault fails cs fault) : ∃ c ∈ cs, fails c fault := by
  induction h with
  | here failed => exact ⟨_, List.mem_cons_self, failed⟩
  | later _ _ ih =>
    obtain ⟨c, hc, failed⟩ := ih
    exact ⟨c, List.mem_cons_of_mem _ hc, failed⟩

theorem append_left (h : FirstFault fails cs fault) (more : List Check) :
    FirstFault fails (cs ++ more) fault := by
  induction h with
  | here failed => exact .here failed
  | later passed _ ih => exact .later passed ih

theorem append_right (h : ∀ c ∈ cs, ∀ f, ¬fails c f) {more : List Check}
    (first : FirstFault fails more fault) : FirstFault fails (cs ++ more) fault := by
  induction cs with
  | nil => exact first
  | cons c rest ih =>
    exact .later (h c List.mem_cons_self) (ih fun c' hc' => h c' (List.mem_cons_of_mem _ hc'))

end FirstFault

/-! ### Entries and lists -/

variable {catalog : Option EventCatalog} {d : MethodDecl T A} {a : Annotation}
  {param : Option EventType} {fault : HandlerFault}

theorem fails_of_lookup {r : EventRef} (h : lookup catalog r = .error fault) :
    Fails catalog d a (.known r) fault := by
  unfold lookup at h
  split at h
  · cases h
  · split at h
    · cases h
      exact .unknown fun c hc => by cases hc
    · split at h
      · cases h
      · rename_i hc
        cases h
        exact .unknown fun c hc' => by cases hc'; exact hc
      · rename_i hc
        cases h
        exact .ambiguous rfl hc

theorem Names.not_fails {r : EventRef} {t : EventType} (h : Names catalog r t)
    (f : HandlerFault) : ¬Fails catalog d a (.known r) f := by
  intro hf
  cases hf with
  | unknown missing =>
    cases h with
    | named known found =>
      have hmissing := missing _ known
      rw [found] at hmissing
      cases hmissing
  | ambiguous given several =>
    cases h with
    | named known found =>
      rw [given] at known
      cases known
      rw [found] at several
      cases several

theorem firstFault_entryType (hparams : d.params = param.toList.map .event) {r : EventRef}
    (h : entryType catalog param r = .error fault) :
    FirstFault (Fails catalog d a) (entryChecks r) fault := by
  rcases error_bind_iff.mp h with h | ⟨t, ht, h⟩
  · exact .here (fails_of_lookup h)
  have hnames := lookup_ok_iff.mp ht
  refine .later hnames.not_fails ?_
  split at h
  · rename_i habstract
    cases h
    exact .here (.abstractEvent hnames habstract)
  · rename_i hconcrete
    have hpassed : ∀ f, ¬Fails catalog d a (.concrete r) f := by
      rintro _ (_ | _ | _ | _ | ⟨hu, habstract⟩)
      exact hconcrete (hu.unique hnames ▸ habstract)
    refine .later hpassed ?_
    split at h
    · cases h
    · rename_i p
      split at h
      · cases h
      · rename_i hrefused
        cases h
        refine .here (.notAssignable hnames ?_ (by simpa using hrefused))
        rw [hparams, event_mem_params]
        rfl

theorem not_fails_of_entryType (hparams : d.params = param.toList.map .event) {r : EventRef}
    {t : EventType} (h : entryType catalog param r = .ok t) :
    ∀ c ∈ entryChecks r, ∀ f, ¬Fails catalog d a c f := by
  obtain ⟨hnames, hconcrete, hassign⟩ := entryType_ok_iff.mp h
  intro c hc f hf
  simp only [entryChecks, List.mem_cons, List.not_mem_nil, or_false] at hc
  rcases hc with rfl | rfl | rfl
  · exact hnames.not_fails f hf
  · cases hf with
    | abstractEvent hu habstract =>
      rw [hu.unique hnames, hconcrete] at habstract
      cases habstract
  · cases hf with
    | notAssignable hu htakes hrefused =>
      rw [hparams, event_mem_params] at htakes
      rw [hu.unique hnames, hassign _ htakes] at hrefused
      cases hrefused

theorem firstFault_listTypes (hparams : d.params = param.toList.map .event) {rs : List EventRef}
    (h : listTypes catalog param rs = .error fault) :
    FirstFault (Fails catalog d a) (rs.flatMap entryChecks) fault := by
  induction rs with
  | nil => cases h
  | cons r rest ih =>
    rw [List.flatMap_cons]
    rcases error_bind_iff.mp h with h | ⟨t, ht, h⟩
    · exact (firstFault_entryType hparams h).append_left _
    · refine .append_right (not_fails_of_entryType hparams ht) ?_
      rcases error_bind_iff.mp h with h | ⟨ts, -, h⟩
      · exact ih h
      · cases h

theorem not_fails_of_listTypes (hparams : d.params = param.toList.map .event)
    {rs : List EventRef} {ts : List EventType} (h : listTypes catalog param rs = .ok ts) :
    ∀ c ∈ rs.flatMap entryChecks, ∀ f, ¬Fails catalog d a c f := by
  intro c hc
  obtain ⟨r, hr, hc⟩ := List.mem_flatMap.mp hc
  obtain ⟨t, ht⟩ := exists_forall₂_iff.mp ⟨ts, listTypes_ok_iff.mp h⟩ r hr
  exact not_fails_of_entryType hparams ht c hc

/-! ### Handlers -/

theorem firstFault_paramType (h : paramType d.params = .error fault) :
    FirstFault (Fails catalog d a) [.arity, .parameter] fault := by
  unfold paramType at h
  split at h
  · cases h
  · cases h
  · rename_i name hparams
    cases h
    refine .later ?_ (.here (.parameter (by simp [hparams])))
    rintro _ ⟨many⟩
    simp [hparams] at many
  · rename_i p q rest hparams
    cases h
    have hfails : Fails catalog d a .arity (.arity d.params.length) :=
      .arity (by simp [hparams])
    rw [hparams] at hfails
    exact .here hfails

theorem not_fails_of_params (hparams : d.params = param.toList.map .event) :
    ∀ c ∈ [Check.arity, .parameter], ∀ f, ¬Fails catalog d a c f := by
  obtain ⟨harity, hevent⟩ := params_iff.mpr ⟨param, hparams⟩
  intro c hc f hf
  simp only [List.mem_cons, List.not_mem_nil, or_false] at hc
  rcases hc with rfl | rfl
  · cases hf with
    | arity many => exact Nat.not_lt.mpr harity many
  · cases hf with
    | parameter foreign =>
      obtain ⟨t, ht⟩ := hevent _ foreign
      cases ht

/-- The checks that come before that of the invoker. -/
def typeChecks (a : Annotation) : List Check :=
  [.arity, .parameter] ++ a.events.flatMap entryChecks ++ [.implied]

theorem checks_eq (a : Annotation) : checks a = typeChecks a ++ [.invoker] := by
  simp [checks, typeChecks]

theorem firstFault_handledTypes (h : handledTypes catalog a d.params = .error fault) :
    FirstFault (Fails catalog d a) (typeChecks a) fault := by
  rw [typeChecks, List.append_assoc]
  rcases error_bind_iff.mp h with h | ⟨param, hparam, h⟩
  · exact (firstFault_paramType h).append_left _
  have hparams := paramType_ok_iff.mp hparam
  refine .append_right (not_fails_of_params hparams) ?_
  split at h
  · exact (firstFault_listTypes hparams h).append_left _
  · rename_i himplicit
    have hunlisted : a.events = [] := by
      unfold Annotation.isExplicit at himplicit
      simpa using himplicit
    rw [hunlisted]
    split at h
    · cases h
      exact .here (.missingEventList hunlisted hparams)
    · rename_i p
      split at h
      · rename_i habstract
        cases h
        refine .here (.abstractParameter hunlisted ?_ habstract)
        rw [hparams, event_mem_params]
        rfl
      · cases h

theorem not_fails_of_handledTypes {ts : List EventType}
    (h : handledTypes catalog a d.params = .ok ts) :
    ∀ c ∈ typeChecks a, ∀ f, ¬Fails catalog d a c f := by
  obtain ⟨param, hparams, htypes⟩ := handledTypes_ok_iff.mp h
  intro c hc f hf
  rcases List.mem_append.mp hc with hc | hc
  · rcases List.mem_append.mp hc with hc | hc
    · exact not_fails_of_params hparams c hc f hf
    · obtain ⟨r, hr, -⟩ := List.mem_flatMap.mp hc
      rw [if_neg (List.ne_nil_of_mem hr)] at htypes
      exact not_fails_of_listTypes hparams (listTypes_ok_iff.mpr htypes) c hc f hf
  · rw [List.mem_singleton.mp hc] at hf
    cases hf with
    | missingEventList unlisted none =>
      rw [if_pos unlisted] at htypes
      obtain ⟨c, rfl, -⟩ := htypes
      rw [hparams] at none
      cases none
    | abstractParameter unlisted takes base =>
      rw [if_pos unlisted] at htypes
      obtain ⟨c, rfl, -⟩ := htypes
      rw [hparams, event_mem_params] at takes
      cases takes
      cases base

/-- A handler that cannot be wired is at fault where its first check fails. -/
theorem firstFault_describe (h : describe catalog d a = .error fault) :
    FirstFault (Fails catalog d a) (checks a) fault := by
  rw [checks_eq]
  rcases error_bind_iff.mp h with h | ⟨ts, hts, h⟩
  · exact (firstFault_handledTypes h).append_left _
  · refine .append_right (not_fails_of_handledTypes hts) ?_
    split at h
    · rename_i hnone
      cases h
      exact .here (.missingInvoker hnone)
    · cases h

/-! ### Models -/

/-- Every handler among some methods can be wired. -/
def AllWired (catalog : Option EventCatalog) (ds : List (MethodDecl T A)) : Prop :=
  ∀ d ∈ ds, ∀ a, d.annotation = some a → ∃ h, describe catalog d a = .ok h

theorem AllWired.cons {d : MethodDecl T A} {ds : List (MethodDecl T A)}
    (hd : ∀ a, d.annotation = some a → ∃ h, describe catalog d a = .ok h)
    (h : AllWired catalog ds) : AllWired catalog (d :: ds) := by
  intro d' hd'
  rcases List.mem_cons.mp hd' with rfl | hd'
  · exact hd
  · exact h d' hd'

/-- A list of methods is rejected for a handler before which all can be wired. -/
theorem exists_of_describeAll_error {ds : List (MethodDecl T A)} {e : ResolveError}
    (h : describeAll catalog ds = .error e) :
    ∃ before d after a, ds = before ++ d :: after ∧ AllWired catalog before ∧
      d.annotation = some a ∧ describe catalog d a = .error e.fault ∧
      e.declaredBy = d.declaredBy ∧ e.method = d.name := by
  induction ds with
  | nil => cases h
  | cons x rest ih =>
    -- if `x` is not at fault, it comes before the one that is
    have hlater : describeAll catalog rest = .error e →
        (∀ a, x.annotation = some a → ∃ h, describe catalog x a = .ok h) →
        ∃ before d after a, x :: rest = before ++ d :: after ∧ AllWired catalog before ∧
          d.annotation = some a ∧ describe catalog d a = .error e.fault ∧
          e.declaredBy = d.declaredBy ∧ e.method = d.name := by
      intro hrest hx
      obtain ⟨before, d, after, a, rfl, hbefore, hfault⟩ := ih hrest
      exact ⟨x :: before, d, after, a, rfl, hbefore.cons hx, hfault⟩
    rw [describeAll] at h
    split at h
    · rename_i hplain
      refine hlater h fun a ha => ?_
      rw [hplain] at ha
      cases ha
    · rename_i a ha
      split at h
      · rename_i fault hfault
        cases h
        exact ⟨[], x, rest, a, rfl, fun d hd => absurd hd List.not_mem_nil, ha, hfault, rfl, rfl⟩
      · rename_i h' hwired
        rcases error_bind_iff.mp h with hrest | ⟨hs, -, h⟩
        · refine hlater hrest fun a' ha' => ?_
          rw [ha] at ha'
          cases ha'
          exact ⟨h', hwired⟩
        · cases h

/-- What follows the handler at fault has no say. -/
theorem describeAll_append_cons {before : List (MethodDecl T A)} (hbefore : AllWired catalog before)
    (ha : d.annotation = some a) (hfault : describe catalog d a = .error fault)
    (after : List (MethodDecl T A)) :
    describeAll catalog (before ++ d :: after) = .error ⟨d.declaredBy, d.name, fault⟩ := by
  induction before with
  | nil =>
    rw [List.nil_append, describeAll]
    simp only [ha, hfault]
  | cons x rest ih =>
    have ih := ih fun d' hd' => hbefore d' (List.mem_cons_of_mem _ hd')
    rw [List.cons_append, describeAll]
    cases hx : x.annotation with
    | none => exact ih
    | some a' =>
      obtain ⟨h, hwired⟩ := hbefore x List.mem_cons_self a' hx
      simp only [hwired, ih]
      rfl

end Resolution

namespace TypeModel

open Resolution

/-- A model that was built: method by method, and on models that were built. -/
inductive Built {A : Type} : {T : Type} → TypeModel T A → Prop where
  | new {T : Type} (name : String) : Built (new name : TypeModel T A)
  | method {T : Type} {m : TypeModel T A} (built : Built m) (d : MethodDecl T A) :
    Built (m.method d)
  | extending {T P : Type} {m : TypeModel T A} {parent : TypeModel P A} (built : Built m)
    (above : Built parent) (accessor : T → P) : Built (m.extending parent accessor)

/-- A declaration carries the name of the type that declares it. -/
theorem Built.declaredBy {m : TypeModel T A} (h : m.Built) :
    ∀ l ∈ m.lineage, ∀ d ∈ l.declared, d.declaredBy = l.name := by
  induction h with
  | new name =>
    intro l hl d hd
    cases List.mem_singleton.mp hl
    cases hd
  | @method _ m _ d ih =>
    intro l hl d' hd'
    rcases List.mem_cons.mp hl with rfl | hl
    · rcases List.mem_append.mp hd' with hd' | hd'
      · exact ih m.own List.mem_cons_self d' hd'
      · rw [List.mem_singleton.mp hd']
        rfl
    · exact ih l (List.mem_cons_of_mem _ hl) d' hd'
  | @extending _ _ m parent _ _ accessor ih ihAbove =>
    intro l hl d hd
    rcases List.mem_cons.mp hl with rfl | hl
    · exact ih m.own List.mem_cons_self d hd
    · obtain ⟨l', hl', rfl⟩ := List.mem_map.mp hl
      obtain ⟨d', hd', rfl⟩ := List.mem_map.mp hd
      exact ihAbove l' hl' d' hd'

/-- A model that does not resolve is rejected for the first of its methods that is
a malformed handler, whatever methods follow it. The error names that method and
the type that declares it, and gives the fault of the first check that fails for
it. One line is logged, an error with the names of the model and the method. -/
theorem Built.rejected_for_first_fault {m : TypeModel T A} (built : m.Built)
    {catalog : Option EventCatalog} {e : ResolveError} (failed : m.resolve catalog = .error e) :
    (∃ before d after a, m.inheritable = before ++ d :: after ∧ d.annotation = some a ∧
      (∀ d' ∈ before, ∀ a', d'.annotation = some a' → WellFormed catalog d' a') ∧
      ¬WellFormed catalog d a ∧
      (∀ (m' : TypeModel T A) after', m'.inheritable = before ++ d :: after' →
        m'.resolve catalog = .error e) ∧
      e.method = d.name ∧
      (∃ l ∈ m.lineage, d ∈ l.declared ∧ e.declaredBy = l.name) ∧
      FirstFault (Fails catalog d a) (checks a) e.fault) ∧
    ∃ entry, (m.resolveLogged catalog).2 = [entry] ∧ entry.level = .error ∧
      entry.message = e.message ∧
      entry.fields = [("target_type", .string m.name), ("method", .string e.method)] := by
  constructor
  · obtain ⟨before, d, after, a, hmethods, hbefore, ha, hfault, hdeclaredBy, hmethod⟩ :=
      exists_of_describeAll_error failed
    have hmalformed : ¬WellFormed catalog d a := by
      intro hwell
      obtain ⟨h, hwired⟩ := wellFormed_iff.mp hwell
      rw [hfault] at hwired
      cases hwired
    have hd : d ∈ m.declarations := by
      refine (firstBySignature_sublist [] m.declarations).subset ?_
      show d ∈ m.inheritable
      rw [hmethods]
      exact List.mem_append_right _ List.mem_cons_self
    obtain ⟨l, hl, hdl⟩ := List.mem_flatMap.mp hd
    refine ⟨before, d, after, a, hmethods, ha,
      fun d' hd' a' ha' => wellFormed_iff.mpr (hbefore d' hd' a' ha'), hmalformed, ?_, hmethod,
      ⟨l, hl, hdl, hdeclaredBy.trans (built.declaredBy l hl d hdl)⟩, firstFault_describe hfault⟩
    intro m' after' hmethods'
    rw [resolve, hmethods', describeAll_append_cons hbefore ha hfault after', ← hdeclaredBy,
      ← hmethod]
  · refine ⟨.rejected m.name e, ?_, rfl, rfl, rfl⟩
    rw [resolveLogged, failed]
    rfl

/-- The second handler of a parent has three faults: a name that no catalog knows,
a base type in its list, and nothing to run. The name comes first, before a handler
of the parent that takes two parameters. -/
theorem rejected_for_unknown_name :
    let opened : ConcreteType := ⟨1, "Opened"⟩
    let counter : TypeModel Nat Nat := (((new "Counter").method
      (.handlesEvent (.new "on_opened") (.concrete opened) fun n _ => n)).method
      (.annotated (.new "on_any") ⟨[.type (.concrete opened), .named "Lost", .type .base]⟩)).method
      (.annotated (.param (.param (.new "on_two") (.event .base)) (.event .base)) .implicit)
    let panel : TypeModel (Nat × Bool) Nat := (new "Panel").extending counter Prod.fst
    let e : ResolveError := ⟨"Counter", "on_any", .unknownEventType "Lost"⟩
    panel.Built ∧ panel.resolve none = .error e ∧
      (∃ d ∈ panel.inheritable, ∃ a, d.annotation = some a ∧ d.name = "on_any" ∧
        FirstFault (Fails none d a) (checks a) (.unknownEventType "Lost")) ∧
      ∃ entry, (panel.resolveLogged none).2 = [entry] ∧ entry.level = .error ∧
        entry.fields = [("target_type", .string "Panel"), ("method", .string "on_any")] := by
  intro opened counter panel e
  have built : panel.Built := .extending (.new _) (.method (.method (.method (.new _) _) _) _) _
  have failed : panel.resolve none = .error e := rfl
  obtain ⟨⟨before, d, after, a, hmethods, ha, -, -, -, hmethod, -, hfirst⟩,
    entry, hlog, hlevel, -, hfields⟩ := built.rejected_for_first_fault failed
  refine ⟨built, failed, ⟨d, ?_, a, ha, hmethod.symm, hfirst⟩, entry, hlog, hlevel, hfields⟩
  rw [hmethods]
  exact List.mem_append_right _ List.mem_cons_self

end TypeModel

end EventWiring
