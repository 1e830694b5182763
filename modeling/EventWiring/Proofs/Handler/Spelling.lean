import EventWiring.Proofs.Handler.Overriding
import EventWiring.Proofs.Handler.Resolution

/-! Naming events in lists. A name is another spelling of the type that a catalog has
under it: a model whose names are spelled out needs no catalog, and resolves to the same
handlers or is rejected for the same fault. Only a name that several types share reads
as unknown then. -/
namespace EventWiring

variable {T A : Type}

/-! ### Spelling out -/

/-- The entry with its type in place of a name that a catalog knows. -/
def EventRef.spelledOut (c : EventCatalog) : EventRef → EventRef
  | type t => type t
  | named name =>
    match c.lookup name with
    | .ok t => type t
    | .error _ => named name

def Annotation.spelledOut (c : EventCatalog) (a : Annotation) : Annotation :=
  ⟨a.events.map (·.spelledOut c)⟩

def MethodDecl.spelledOut (c : EventCatalog) (d : MethodDecl T A) : MethodDecl T A :=
  { d with annotation := d.annotation.map (·.spelledOut c) }

@[simp] theorem MethodDecl.signature_spelledOut (c : EventCatalog) (d : MethodDecl T A) :
    (d.spelledOut c).signature = d.signature := rfl

def Layer.spelledOut (c : EventCatalog) (l : Layer T A) : Layer T A :=
  { l with declared := l.declared.map (·.spelledOut c) }

/-- The model with the types in place of all names that a catalog knows, in its own
layer and in those above. -/
def TypeModel.spelledOut (c : EventCatalog) (m : TypeModel T A) : TypeModel T A :=
  ⟨m.own.spelledOut c, m.ancestors.map (·.spelledOut c)⟩

/-- The fault that there is without a catalog: a name that several types have is then as
unknown as any other. -/
def HandlerFault.withoutCatalog : HandlerFault → HandlerFault
  | ambiguousEventType name => unknownEventType name
  | fault => fault

def ResolveError.withoutCatalog (e : ResolveError) : ResolveError :=
  { e with fault := e.fault.withoutCatalog }

/-! ### Faults of a sequence of checks -/

theorem mapError_bind {ε ε' α β : Type} (g : ε → ε') (x : Except ε α) (f : α → Except ε β) :
    (x >>= f).mapError g = x.mapError g >>= fun a => (f a).mapError g := by
  cases x <;> rfl

namespace Resolution

open HandlerFault (withoutCatalog)

variable (c : EventCatalog)

theorem lookup_spelledOut (r : EventRef) :
    lookup none (r.spelledOut c) = (lookup (some c) r).mapError withoutCatalog := by
  cases r with
  | type t => rfl
  | named name =>
    unfold EventRef.spelledOut lookup
    dsimp only
    cases c.lookup name with
    | ok t => rfl
    | error failure => cases failure <;> rfl

theorem entryType_spelledOut (param : Option EventType) (r : EventRef) :
    entryType none param (r.spelledOut c) =
      (entryType (some c) param r).mapError withoutCatalog := by
  unfold entryType
  rw [mapError_bind, lookup_spelledOut]
  congr 1
  funext t
  -- whether the type is fit does not depend on how it was written
  split
  · rfl
  · cases param with
    | none => rfl
    | some p => dsimp only; split <;> rfl

theorem listTypes_spelledOut (param : Option EventType) (rs : List EventRef) :
    listTypes none param (rs.map (·.spelledOut c)) =
      (listTypes (some c) param rs).mapError withoutCatalog := by
  induction rs with
  | nil => rfl
  | cons r rest ih =>
    rw [List.map_cons, listTypes, listTypes, mapError_bind, entryType_spelledOut]
    congr 1
    funext t
    rw [mapError_bind, ih]
    rfl

theorem paramType_withoutCatalog (ps : List ParamType) :
    (paramType ps).mapError withoutCatalog = paramType ps := by
  unfold paramType
  split <;> rfl

theorem handledTypes_spelledOut (a : Annotation) (ps : List ParamType) :
    handledTypes none (a.spelledOut c) ps =
      (handledTypes (some c) a ps).mapError withoutCatalog := by
  have hexplicit : (a.spelledOut c).isExplicit = a.isExplicit := by
    unfold Annotation.isExplicit Annotation.spelledOut
    rw [List.isEmpty_map]
  unfold handledTypes
  rw [mapError_bind, paramType_withoutCatalog, hexplicit]
  congr 1
  funext param
  split
  · exact listTypes_spelledOut c param a.events
  · cases param with
    | none => rfl
    | some t => dsimp only; split <;> rfl

theorem describe_spelledOut (d : MethodDecl T A) (a : Annotation) :
    describe none (d.spelledOut c) (a.spelledOut c) =
      (describe (some c) d a).mapError withoutCatalog := by
  obtain ⟨name, declaredBy, params, annotation, invoker⟩ := d
  unfold describe MethodDecl.spelledOut
  dsimp only
  rw [handledTypes_spelledOut, mapError_bind]
  congr 1
  funext types
  cases invoker <;> rfl

theorem describeAll_spelledOut (ds : List (MethodDecl T A)) :
    describeAll none (ds.map (·.spelledOut c)) =
      (describeAll (some c) ds).mapError ResolveError.withoutCatalog := by
  induction ds with
  | nil => rfl
  | cons d rest ih =>
    have hannotation :
        MethodDecl.annotation (d.spelledOut c) = d.annotation.map (·.spelledOut c) := rfl
    rw [List.map_cons, describeAll, describeAll, hannotation]
    cases d.annotation with
    | none => exact ih
    | some a =>
      dsimp only [Option.map_some]
      rw [describe_spelledOut]
      cases describe (some c) d a with
      | error fault => rfl
      | ok h =>
        rw [ih]
        cases describeAll (some c) rest <;> rfl

/-! ### More names -/

/-- A catalog takes nothing from what an entry stands for without one. -/
theorem Names.withCatalog {r : EventRef} {t : EventType} (h : Names none r t) :
    Names (some c) r t := by
  cases h with
  | type => exact .type t
  | named known => cases known

theorem handledTypes_withCatalog {a : Annotation} {ps : List ParamType} {ts : List EventType}
    (h : handledTypes none a ps = .ok ts) : handledTypes (some c) a ps = .ok ts := by
  obtain ⟨param, hparams, htypes⟩ := handledTypes_ok_iff.mp h
  refine handledTypes_ok_iff.mpr ⟨param, hparams, ?_⟩
  split at htypes
  · rename_i hevents
    rw [if_pos hevents]
    exact htypes
  · rename_i hevents
    rw [if_neg hevents]
    refine htypes.imp fun r t ht => ?_
    obtain ⟨hnames, hfit⟩ := entryType_ok_iff.mp ht
    exact entryType_ok_iff.mpr ⟨hnames.withCatalog c, hfit⟩

theorem describeAll_withCatalog {ds : List (MethodDecl T A)} {hs : List (HandlerDescriptor T A)}
    (h : describeAll none ds = .ok hs) : describeAll (some c) ds = .ok hs := by
  refine describeAll_ok_iff.mpr ((describeAll_ok_iff.mp h).imp ?_)
  rintro d descriptor ⟨a, ha, hd⟩
  obtain ⟨htypes, hrest⟩ := describe_ok_iff.mp hd
  exact ⟨a, ha, describe_ok_iff.mpr ⟨handledTypes_withCatalog c htypes, hrest⟩⟩

end Resolution

namespace TypeModel

theorem declarations_spelledOut (c : EventCatalog) (m : TypeModel T A) :
    (m.spelledOut c).declarations = m.declarations.map (·.spelledOut c) := by
  simp only [declarations, lineage, spelledOut, Layer.spelledOut, List.flatMap_cons,
    List.flatMap_map, List.map_append, List.map_flatMap]

theorem inheritable_spelledOut (c : EventCatalog) (m : TypeModel T A) :
    (m.spelledOut c).inheritable = m.inheritable.map (·.spelledOut c) := by
  rw [inheritable, declarations_spelledOut, firstBySignature_map (·.signature_spelledOut c),
    inheritable]

/-- A model resolves with a catalog as it does without one when the types stand in it
instead of their names: to the same descriptors, or to the same error, but that a name
of several types is unknown without the catalog. What resolves without a catalog
resolves to the same with any. -/
theorem resolve_spelledOut (c : EventCatalog) (m : TypeModel T A) :
    (m.spelledOut c).resolve none = (m.resolve (some c)).mapError ResolveError.withoutCatalog ∧
      ∀ hs, m.resolve none = .ok hs → m.resolve (some c) = .ok hs := by
  refine ⟨?_, fun hs h => Resolution.describeAll_withCatalog c h⟩
  rw [resolve, inheritable_spelledOut, Resolution.describeAll_spelledOut, resolve]

/-- A panel that lists a type needs no catalog; one that lists the bare name of two
types is rejected with one and without. -/
theorem resolve_spelledOut_of_shared :
    let opened : EventType := .concrete ⟨1, "alpha::Opened"⟩
    let other : EventType := .concrete ⟨2, "beta::Opened"⟩
    let c := EventCatalog.ofTypes [opened, other]
    let panel (r : EventRef) : TypeModel Nat Nat := (new "Panel").method
      (((MethodDecl.new "on_any").annotated ⟨[r]⟩).withInvoker fun n _ => some n)
    ((panel (.type opened)).resolve none).isOk = true ∧
      (panel (.type opened)).resolve (some c) = (panel (.type opened)).resolve none ∧
      (panel (.named "Opened")).resolve (some c) =
        .error ⟨"Panel", "on_any", .ambiguousEventType "Opened"⟩ ∧
      ((panel (.named "Opened")).spelledOut c).resolve none =
        .error ⟨"Panel", "on_any", .unknownEventType "Opened"⟩ := by
  intro opened other c panel
  have hlisted : Resolution.listTypes (some c) none [.named "Opened"] =
      .error (.ambiguousEventType "Opened") := by decide
  have hinheritable : (panel (.named "Opened")).inheritable =
      [⟨"on_any", "Panel", [], some ⟨[.named "Opened"]⟩, some fun n _ => some n⟩] := rfl
  have hshared : (panel (.named "Opened")).resolve (some c) =
      .error ⟨"Panel", "on_any", .ambiguousEventType "Opened"⟩ := by
    simp [resolve, hinheritable, Resolution.describeAll, Resolution.describe,
      Resolution.handledTypes_of_listed, Annotation.isExplicit, hlisted, bind, Except.bind]
  obtain ⟨hspelled, -⟩ := resolve_spelledOut c (panel (.named "Opened"))
  obtain ⟨-, hmore⟩ := resolve_spelledOut c (panel (.type opened))
  rw [hshared] at hspelled
  exact ⟨rfl, hmore _ rfl, hshared, hspelled⟩

end TypeModel

end EventWiring
