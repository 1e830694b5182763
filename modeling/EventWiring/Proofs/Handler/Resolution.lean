import EventWiring.Handler.Resolution
import Mathlib.Data.List.Forall2

/-! Which models resolve, and to what. Each check of the resolution is turned
into the condition under which it passes; together they say when a handler is
well formed, and a model resolves exactly when all its handlers are. -/
namespace EventWiring

theorem ok_bind_iff {ε α β : Type} {x : Except ε α} {f : α → Except ε β} {b : β} :
    (x >>= f) = .ok b ↔ ∃ a, x = .ok a ∧ f a = .ok b := by
  cases x <;> simp [bind, Except.bind]

theorem exists_forall₂_iff {α β : Type} {R : α → β → Prop} {xs : List α} :
    (∃ ys, List.Forall₂ R xs ys) ↔ ∀ x ∈ xs, ∃ y, R x y := by
  induction xs with
  | nil => exact ⟨fun _ _ hx => absurd hx List.not_mem_nil, fun _ => ⟨[], .nil⟩⟩
  | cons x rest ih =>
    rw [List.forall_mem_cons, ← ih]
    constructor
    · rintro ⟨_, h⟩
      cases h with
      | cons hy hrest => exact ⟨⟨_, hy⟩, ⟨_, hrest⟩⟩
    · rintro ⟨⟨y, hy⟩, ⟨ys, hrest⟩⟩
      exact ⟨y :: ys, .cons hy hrest⟩

theorem exists_mem_of_forall₂ {α β : Type} {R : α → β → Prop} {xs : List α} {ys : List β}
    (h : List.Forall₂ R xs ys) {y : β} (hy : y ∈ ys) : ∃ x ∈ xs, R x y := by
  induction h with
  | nil => cases hy
  | @cons x _ _ _ hxy _ ih =>
    rcases List.mem_cons.mp hy with rfl | hy
    · exact ⟨x, List.mem_cons_self, hxy⟩
    · obtain ⟨x', hx', hxy'⟩ := ih hy
      exact ⟨x', List.mem_cons_of_mem _ hx', hxy'⟩

namespace Resolution

/-! ### Conditions -/

/-- An entry of a list stands for a type: the one that it gives, or the one that
the catalog has under the name that it gives. -/
inductive Names (catalog : Option EventCatalog) : EventRef → EventType → Prop where
  | type (t : EventType) : Names catalog (.type t) t
  | named {c : EventCatalog} {name : String} {t : EventType} (known : catalog = some c)
    (found : c.lookup name = .ok t) : Names catalog (.named name) t

variable {T A : Type}

/-- A handler that can be wired. -/
structure WellFormed (catalog : Option EventCatalog) (d : MethodDecl T A) (a : Annotation) :
    Prop where
  arity : d.params.length ≤ 1
  event : ∀ p ∈ d.params, ∃ t, p = .event t
  listed : ∀ r ∈ a.events, ∃ c, Names catalog r (.concrete c) ∧
    ∀ p, .event p ∈ d.params → (EventType.concrete c).isAssignableTo p = true
  unlisted : a.events = [] → ∃ c, .event (.concrete c) ∈ d.params
  runs : d.invoker.isSome = true

/-- A descriptor carries what its method declares, with the types of the list or,
without one, the type of the parameter. -/
structure Describes (catalog : Option EventCatalog) (d : MethodDecl T A)
    (h : HandlerDescriptor T A) : Prop where
  signature : h.signature = d.signature
  declaredBy : h.declaredBy = d.declaredBy
  invoker : d.invoker = some h.invoker
  types : ∃ a, d.annotation = some a ∧
    if a.events = [] then ∃ p, d.params = [.event p] ∧ h.eventTypes = [p]
    else List.Forall₂ (Names catalog) a.events h.eventTypes

/-! ### Entries and lists -/

variable {catalog : Option EventCatalog} {param : Option EventType}

theorem lookup_ok_iff {r : EventRef} {t : EventType} :
    lookup catalog r = .ok t ↔ Names catalog r t := by
  constructor
  · intro h
    unfold lookup at h
    split at h
    · cases h
      exact .type _
    · split at h
      · cases h
      · rename_i c
        split at h
        · rename_i hc
          cases h
          exact .named rfl hc
        · cases h
        · cases h
  · intro h
    cases h with
    | type => rfl
    | named hc hfound => simp [lookup, hc, hfound]

/-- An entry stands for one type. -/
theorem Names.unique {r : EventRef} {t u : EventType} (ht : Names catalog r t)
    (hu : Names catalog r u) : t = u :=
  Except.ok.inj ((lookup_ok_iff.mpr ht).symm.trans (lookup_ok_iff.mpr hu))

/-- What an entry must stand for. -/
theorem entryType_ok_iff {r : EventRef} {t : EventType} :
    entryType catalog param r = .ok t ↔
      Names catalog r t ∧ t.isAbstract = false ∧ ∀ p ∈ param, t.isAssignableTo p = true := by
  unfold entryType
  rw [ok_bind_iff]
  simp only [lookup_ok_iff]
  constructor
  · rintro ⟨u, hu, h⟩
    split at h
    · cases h
    · rename_i habstract
      split at h
      · cases h
        exact ⟨hu, by simpa using habstract, fun p hp => by cases hp⟩
      · split at h
        · rename_i hassign
          cases h
          exact ⟨hu, by simpa using habstract, fun p hp => by cases hp; exact hassign⟩
        · cases h
  · rintro ⟨hu, habstract, hassign⟩
    refine ⟨t, hu, ?_⟩
    rw [habstract]
    cases param with
    | none => rfl
    | some p => simp [hassign p rfl]

theorem listTypes_ok_iff {rs : List EventRef} {ts : List EventType} :
    listTypes catalog param rs = .ok ts ↔
      List.Forall₂ (fun r t => entryType catalog param r = .ok t) rs ts := by
  induction rs generalizing ts with
  | nil =>
    rw [List.forall₂_nil_left_iff, listTypes, Except.ok.injEq]
    exact eq_comm
  | cons r rest ih =>
    rw [listTypes, List.forall₂_cons_left_iff]
    simp only [ok_bind_iff, ih, Except.ok.injEq]
    constructor
    · rintro ⟨t, ht, ts, hts, rfl⟩
      exact ⟨t, ts, ht, hts, rfl⟩
    · rintro ⟨t, ts, ht, hts, rfl⟩
      exact ⟨t, ht, ts, hts, rfl⟩

/-! ### Handlers -/

theorem paramType_ok_iff {ps : List ParamType} :
    paramType ps = .ok param ↔ ps = param.toList.map .event := by
  unfold paramType
  cases param <;> split <;> simp

/-- Without a parameter, what a handler lists is what it handles. -/
theorem handledTypes_of_listed {a : Annotation} (h : a.isExplicit = true) :
    handledTypes catalog a [] = listTypes catalog none a.events := by
  simp [handledTypes, paramType, h, bind, Except.bind]

/-- The types of a handler are those of its list, or its parameter's. -/
theorem handledTypes_ok_iff {a : Annotation} {ps : List ParamType} {ts : List EventType} :
    handledTypes catalog a ps = .ok ts ↔ ∃ param : Option EventType,
      ps = param.toList.map .event ∧
        if a.events = [] then ∃ c, param = some (.concrete c) ∧ ts = [.concrete c]
        else List.Forall₂ (fun r t => entryType catalog param r = .ok t) a.events ts := by
  unfold handledTypes
  rw [ok_bind_iff]
  refine exists_congr fun param => and_congr paramType_ok_iff ?_
  cases hevents : a.events with
  | nil =>
    simp only [hevents, Annotation.isExplicit, List.isEmpty_nil, Bool.not_true, if_true]
    cases param with
    | none => simp
    | some t => cases t <;> simp [EventType.isAbstract, eq_comm]
  | cons r rest =>
    simp only [hevents, Annotation.isExplicit, List.isEmpty_cons, Bool.not_false, if_true,
      reduceCtorEq, if_false]
    exact listTypes_ok_iff

theorem describe_ok_iff {d : MethodDecl T A} {a : Annotation} {h : HandlerDescriptor T A} :
    describe catalog d a = .ok h ↔ handledTypes catalog a d.params = .ok h.eventTypes ∧
      d.invoker = some h.invoker ∧ h.signature = d.signature ∧ h.declaredBy = d.declaredBy := by
  unfold describe
  rw [ok_bind_iff]
  constructor
  · rintro ⟨ts, hts, h⟩
    split at h
    · cases h
    · rename_i hrun
      cases h
      exact ⟨hts, hrun, rfl, rfl⟩
  · rintro ⟨hts, hrun, hsignature, hdeclared⟩
    refine ⟨h.eventTypes, hts, ?_⟩
    rw [hrun, ← hsignature, ← hdeclared]

theorem eq_concrete_of_isAbstract {t : EventType} (h : t.isAbstract = false) :
    ∃ c, t = .concrete c := by
  cases t with
  | base => cases h
  | concrete c => exact ⟨c, rfl⟩

/-- At most one parameter, and that of an event type. -/
theorem params_iff {ps : List ParamType} :
    (ps.length ≤ 1 ∧ ∀ p ∈ ps, ∃ t, p = .event t) ↔
      ∃ param : Option EventType, ps = param.toList.map .event := by
  constructor
  · rintro ⟨harity, hevent⟩
    match ps with
    | [] => exact ⟨none, rfl⟩
    | [p] =>
      obtain ⟨t, rfl⟩ := hevent p (List.mem_singleton_self p)
      exact ⟨some t, rfl⟩
    | _ :: _ :: _ => simp at harity
  · rintro ⟨param, rfl⟩
    cases param <;> simp

theorem event_mem_params {param : Option EventType} {p : EventType} :
    ParamType.event p ∈ param.toList.map ParamType.event ↔ p ∈ param := by
  cases param <;> simp [eq_comm]

theorem wellFormed_iff {d : MethodDecl T A} {a : Annotation} :
    WellFormed catalog d a ↔ ∃ h, describe catalog d a = .ok h := by
  constructor
  · intro h
    obtain ⟨param, hparams⟩ := params_iff.mp ⟨h.arity, h.event⟩
    have hmem : ∀ p, ParamType.event p ∈ d.params ↔ p ∈ param := fun p => by
      rw [hparams, event_mem_params]
    have htypes : ∃ ts, handledTypes catalog a d.params = .ok ts := by
      simp only [handledTypes_ok_iff]
      by_cases hevents : a.events = []
      · obtain ⟨c, hc⟩ := h.unlisted hevents
        refine ⟨[.concrete c], param, hparams, ?_⟩
        rw [if_pos hevents]
        exact ⟨c, (hmem _).mp hc, rfl⟩
      · have hentries : ∀ r ∈ a.events, ∃ t, entryType catalog param r = .ok t := by
          intro r hr
          obtain ⟨c, hc, hassign⟩ := h.listed r hr
          exact ⟨_, entryType_ok_iff.mpr ⟨hc, rfl, fun p hp => hassign p ((hmem p).mpr hp)⟩⟩
        obtain ⟨ts, hts⟩ := exists_forall₂_iff.mpr hentries
        refine ⟨ts, param, hparams, ?_⟩
        rw [if_neg hevents]
        exact hts
    obtain ⟨ts, hts⟩ := htypes
    obtain ⟨run, hrun⟩ := Option.isSome_iff_exists.mp h.runs
    exact ⟨⟨d.signature, d.declaredBy, ts, run⟩, describe_ok_iff.mpr ⟨hts, hrun, rfl, rfl⟩⟩
  · rintro ⟨h, hdescribe⟩
    obtain ⟨hts, hrun, -, -⟩ := describe_ok_iff.mp hdescribe
    obtain ⟨param, hparams, htypes⟩ := handledTypes_ok_iff.mp hts
    obtain ⟨harity, hevent⟩ := params_iff.mpr ⟨param, hparams⟩
    refine ⟨harity, hevent, fun r hr => ?_, fun hevents => ?_, by rw [hrun]; rfl⟩
    · rw [if_neg (List.ne_nil_of_mem hr)] at htypes
      obtain ⟨t, ht⟩ := exists_forall₂_iff.mp ⟨_, htypes⟩ r hr
      obtain ⟨hnames, habstract, hassign⟩ := entryType_ok_iff.mp ht
      obtain ⟨c, rfl⟩ := eq_concrete_of_isAbstract habstract
      exact ⟨c, hnames, fun p hp => hassign p (event_mem_params.mp (hparams ▸ hp))⟩
    · rw [if_pos hevents] at htypes
      obtain ⟨c, rfl, -⟩ := htypes
      exact ⟨c, hparams ▸ event_mem_params.mpr rfl⟩

theorem describes_of_describe {d : MethodDecl T A} {a : Annotation} {h : HandlerDescriptor T A}
    (ha : d.annotation = some a) (hd : describe catalog d a = .ok h) :
    Describes catalog d h := by
  obtain ⟨hts, hrun, hsignature, hdeclared⟩ := describe_ok_iff.mp hd
  obtain ⟨param, hparams, htypes⟩ := handledTypes_ok_iff.mp hts
  refine ⟨hsignature, hdeclared, hrun, a, ha, ?_⟩
  split at htypes
  · rename_i hevents
    obtain ⟨c, rfl, hc⟩ := htypes
    rw [if_pos hevents]
    exact ⟨.concrete c, hparams, hc⟩
  · rename_i hevents
    rw [if_neg hevents]
    exact htypes.imp fun r t ht => (entryType_ok_iff.mp ht).1

/-- A handler is wired to some type, and to concrete types only. -/
theorem concrete_of_describe {d : MethodDecl T A} {a : Annotation} {h : HandlerDescriptor T A}
    (hd : describe catalog d a = .ok h) :
    h.eventTypes ≠ [] ∧ ∀ t ∈ h.eventTypes, ∃ c, t = .concrete c := by
  obtain ⟨param, -, htypes⟩ := handledTypes_ok_iff.mp (describe_ok_iff.mp hd).1
  split at htypes
  · obtain ⟨c, -, hc⟩ := htypes
    simp [hc]
  · rename_i hevents
    constructor
    · intro hnil
      rw [hnil, List.forall₂_nil_right_iff] at htypes
      exact hevents htypes
    · intro t ht
      obtain ⟨r, -, hr⟩ := exists_mem_of_forall₂ htypes ht
      exact eq_concrete_of_isAbstract (entryType_ok_iff.mp hr).2.1

/-! ### Models -/

/-- Every handler of a list of methods has its descriptor, in order. -/
theorem describeAll_ok_iff {ds : List (MethodDecl T A)} {hs : List (HandlerDescriptor T A)} :
    describeAll catalog ds = .ok hs ↔
      List.Forall₂ (fun d h => ∃ a, d.annotation = some a ∧ describe catalog d a = .ok h)
        (ds.filter (·.isHandler)) hs := by
  induction ds generalizing hs with
  | nil =>
    rw [describeAll, List.filter_nil, List.forall₂_nil_left_iff, Except.ok.injEq]
    exact eq_comm
  | cons d rest ih =>
    rw [describeAll, List.filter_cons]
    cases ha : d.annotation with
    | none =>
      have hplain : d.isHandler = false := by simp [MethodDecl.isHandler, ha]
      simp only [hplain, Bool.false_eq_true, if_false]
      exact ih
    | some a =>
      have hhandler : d.isHandler = true := by simp [MethodDecl.isHandler, ha]
      simp only [hhandler, if_true, List.forall₂_cons_left_iff]
      cases hd : describe catalog d a with
      | error fault => simp [ha, hd]
      | ok h =>
        simp only [ok_bind_iff, ih, Except.ok.injEq]
        constructor
        · rintro ⟨rest', hrest, rfl⟩
          exact ⟨h, rest', ⟨a, ha, hd⟩, hrest, rfl⟩
        · rintro ⟨h', rest', ⟨a', ha', hd'⟩, hrest, rfl⟩
          rw [ha] at ha'
          cases ha'
          rw [hd] at hd'
          cases hd'
          exact ⟨rest', hrest, rfl⟩

theorem exists_describeAll_iff {ds : List (MethodDecl T A)} :
    (∃ hs, describeAll catalog ds = .ok hs) ↔
      ∀ d ∈ ds, ∀ a, d.annotation = some a → WellFormed catalog d a := by
  simp only [describeAll_ok_iff, exists_forall₂_iff, List.mem_filter, wellFormed_iff]
  constructor
  · intro h d hd a ha
    obtain ⟨x, a', ha', hx⟩ := h d ⟨hd, by simp [MethodDecl.isHandler, ha]⟩
    rw [ha] at ha'
    cases ha'
    exact ⟨x, hx⟩
  · rintro h d ⟨hd, hhandler⟩
    obtain ⟨a, ha⟩ := Option.isSome_iff_exists.mp hhandler
    obtain ⟨x, hx⟩ := h d hd a ha
    exact ⟨x, a, ha, hx⟩

end Resolution

namespace TypeModel

open Resolution

variable {T A : Type}

/-- A model resolves exactly when each of its handlers is well formed. Its
descriptors are then those of its handlers, in the order of its methods, and each
is wired to concrete types, at least one. -/
theorem resolve_ok_iff_wellFormed (catalog : Option EventCatalog) (m : TypeModel T A) :
    ((∃ hs, m.resolve catalog = .ok hs) ↔
        ∀ d ∈ m.inheritable, ∀ a, d.annotation = some a → WellFormed catalog d a) ∧
      ∀ hs, m.resolve catalog = .ok hs →
        List.Forall₂ (Describes catalog) (m.inheritable.filter (·.isHandler)) hs ∧
        ∀ h ∈ hs, h.eventTypes ≠ [] ∧ ∀ t ∈ h.eventTypes, ∃ c, t = .concrete c := by
  refine ⟨exists_describeAll_iff, fun hs hresolve => ?_⟩
  have hall := describeAll_ok_iff.mp hresolve
  refine ⟨hall.imp fun d h ⟨a, ha, hd⟩ => describes_of_describe ha hd, fun h hh => ?_⟩
  obtain ⟨d, -, a, -, hd⟩ := exists_mem_of_forall₂ hall hh
  exact concrete_of_describe hd

end TypeModel

end EventWiring
