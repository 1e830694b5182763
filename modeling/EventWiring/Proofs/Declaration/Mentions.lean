import EventWiring.Declaration.ImplTrait

/-! Types without a name inside other types. A type mentions one if it is one itself or
if a type that it is put together from mentions one. Whatever the check of parameter
types shows is mentioned; what stands where the check does not look is mentioned and not
shown. -/
namespace EventWiring.Source

/-! ### Parts -/

mutual

/-- The types among the arguments of segments. -/
def segmentParts : List Segment → List Ty
  | [] => []
  | .mk _ args :: rest => args.parts ++ segmentParts rest

/-- The types among the arguments of a segment. -/
def PathArgs.parts : PathArgs → List Ty
  | .none => []
  | .angle _ args _ => argParts args
  | .paren inputs _ output => inputs ++ output.toList

/-- The types in generic arguments. -/
def argParts : List GenericArg → List Ty
  | [] => []
  | a :: rest => a.parts ++ argParts rest

/-- The types in a generic argument. -/
def GenericArg.parts : GenericArg → List Ty
  | .type t => [t]
  | .assocType _ args t => args.parts ++ [t]
  | .assocConst _ args _ => args.parts
  | .constraint _ args bounds _ => args.parts ++ boundParts bounds
  | .lifetime _ | .const _ => []

/-- The types in bounds. -/
def boundParts : List Bound → List Ty
  | [] => []
  | .trait _ _ _ (.mk _ segments) :: rest => segmentParts segments ++ boundParts rest
  | _ :: rest => boundParts rest

end

def Path.parts (p : Path) : List Ty := segmentParts p.segments

def FnParam.type : FnParam → Ty
  | mk _ t => t

/-- The types that a type is put together from, wherever they stand in it. -/
def Ty.parts : Ty → List Ty
  | array elem _ => [elem]
  | fnPointer _ params _ _ output => params.map FnParam.type ++ output.toList
  | group inner => [inner]
  | implTrait bounds _ => boundParts bounds
  | infer | never | verbatim _ => []
  | invocation p _ _ => p.parts
  | paren inner => [inner]
  | path p => p.parts
  | projection self trait rest => self :: (trait.toList.flatMap Path.parts ++ segmentParts rest)
  | pointer _ target => [target]
  | reference _ _ target => [target]
  | slice elem => [elem]
  | traitObject _ bounds _ => boundParts bounds
  | tuple elems _ => elems

/-- A type that is one without a name or has one in it, at any depth. -/
inductive Ty.MentionsImplTrait : Ty → Prop where
  | self (bounds : List Bound) (trailing : Bool) : MentionsImplTrait (.implTrait bounds trailing)
  | part {t p : Ty} (h : p ∈ t.parts) (hp : MentionsImplTrait p) : MentionsImplTrait t

/-! ### What is shown -/

/-- The type in a generic argument that the check looks at. -/
def GenericArg.shownPart? : GenericArg → Option Ty
  | type t => some t
  | assocType _ _ t => some t
  | _ => none

def PathArgs.shownParts : PathArgs → List Ty
  | angle _ args _ => args.filterMap GenericArg.shownPart?
  | _ => []

/-- The parts of a type that the check looks at. -/
def Ty.shownParts : Ty → List Ty
  | array elem _ | slice elem | paren elem | group elem => [elem]
  | pointer _ target | reference _ _ target => [target]
  | tuple elems _ => elems
  | path p => p.segments.flatMap (·.args.shownParts)
  | projection _ trait rest =>
    (trait.toList.flatMap Path.segments ++ rest).flatMap (·.args.shownParts)
  | _ => []

def Ty.isImplTrait : Ty → Bool
  | implTrait .. => true
  | _ => false

/-- A type that is one without a name or has one where the check gets, at any depth. -/
inductive Ty.ShowsImplTrait : Ty → Prop where
  | self {t : Ty} (h : t.isImplTrait = true) : ShowsImplTrait t
  | part {t p : Ty} (h : p ∈ t.shownParts) (hp : ShowsImplTrait p) : ShowsImplTrait t

theorem anyShowsImplTrait_eq (ts : List Ty) :
    anyShowsImplTrait ts = ts.any Ty.showsImplTrait := by
  induction ts with
  | nil => rfl
  | cons t ts ih => rw [anyShowsImplTrait, ih, List.any_cons]

theorem argsShowImplTrait_eq (args : List GenericArg) :
    argsShowImplTrait args = (args.filterMap GenericArg.shownPart?).any Ty.showsImplTrait := by
  induction args with
  | nil => rfl
  | cons a args ih => cases a <;> simp [argsShowImplTrait, GenericArg.shownPart?, ih]

theorem segmentsShowImplTrait_eq (ss : List Segment) :
    segmentsShowImplTrait ss = (ss.flatMap (·.args.shownParts)).any Ty.showsImplTrait := by
  induction ss with
  | nil => rfl
  | cons s ss ih =>
    obtain ⟨name, _ | ⟨colons, args, trailing⟩ | _⟩ := s <;>
      simp [segmentsShowImplTrait, argsShowImplTrait_eq, PathArgs.shownParts, Segment.args, ih]

/-- One step of the check. -/
theorem Ty.showsImplTrait_eq (t : Ty) :
    t.showsImplTrait = (t.isImplTrait || t.shownParts.any Ty.showsImplTrait) := by
  rcases t with
    _ | _ | _ | _ | _ | _ | _ | _ | ⟨⟨_, _⟩⟩ | ⟨_, _ | ⟨_, _⟩, _⟩ | _ | _ | _ | _ | _ | _ <;>
    simp [showsImplTrait, isImplTrait, shownParts, anyShowsImplTrait_eq,
      segmentsShowImplTrait_eq, Path.segments]

theorem GenericArg.sizeOf_shownPart?_lt {a : GenericArg} {p : Ty} (h : a.shownPart? = some p) :
    sizeOf p < sizeOf a := by
  cases a <;> cases h <;> simp +arith

theorem PathArgs.sizeOf_lt_of_mem_shownParts {args : PathArgs} {p : Ty}
    (h : p ∈ args.shownParts) : sizeOf p < sizeOf args := by
  cases args with
  | none | paren => cases h
  | angle colons args trailing =>
    obtain ⟨a, ha, hp⟩ := List.mem_filterMap.mp h
    have hlt : sizeOf p < sizeOf a := GenericArg.sizeOf_shownPart?_lt hp
    have hmem : sizeOf a < sizeOf args := List.sizeOf_lt_of_mem ha
    simp only [angle.sizeOf_spec]
    omega

theorem sizeOf_lt_of_mem_segments {ss : List Segment} {p : Ty}
    (h : p ∈ ss.flatMap (·.args.shownParts)) : sizeOf p < sizeOf ss := by
  obtain ⟨⟨name, args⟩, hs, hp⟩ := List.mem_flatMap.mp h
  have hlt : sizeOf p < sizeOf args := PathArgs.sizeOf_lt_of_mem_shownParts hp
  have hmem := List.sizeOf_lt_of_mem hs
  simp only [Segment.mk.sizeOf_spec] at hmem
  omega

theorem Ty.sizeOf_lt_of_mem_shownParts {t p : Ty} (h : p ∈ t.shownParts) :
    sizeOf p < sizeOf t := by
  cases t with
  | array | slice | paren | group | pointer | reference =>
    cases List.mem_singleton.mp h
    simp +arith
  | tuple elems =>
    have hmem := List.sizeOf_lt_of_mem (show p ∈ elems from h)
    simp only [tuple.sizeOf_spec]
    omega
  | path path =>
    obtain ⟨leading, segments⟩ := path
    have hmem : sizeOf p < sizeOf segments := sizeOf_lt_of_mem_segments h
    simp only [path.sizeOf_spec, Path.mk.sizeOf_spec]
    omega
  | projection self trait rest =>
    rw [shownParts, List.flatMap_append, List.mem_append] at h
    rcases h with h | h
    · obtain _ | ⟨leading, segments⟩ := trait
      · cases h
      · have hmem : sizeOf p < sizeOf segments :=
          sizeOf_lt_of_mem_segments (by simpa [Path.segments] using h)
        simp only [projection.sizeOf_spec, Option.some.sizeOf_spec, Path.mk.sizeOf_spec]
        omega
    · have hmem : sizeOf p < sizeOf rest := sizeOf_lt_of_mem_segments h
      simp only [projection.sizeOf_spec]
      omega
  | fnPointer | implTrait | infer | invocation | never | traitObject | verbatim => cases h

theorem Ty.showsImplTrait_of_eq_true (t : Ty) (h : t.showsImplTrait = true) :
    t.ShowsImplTrait := by
  rw [showsImplTrait_eq, Bool.or_eq_true, List.any_eq_true] at h
  rcases h with h | ⟨p, hp, hshows⟩
  · exact .self h
  · have hlt : sizeOf p < sizeOf t := sizeOf_lt_of_mem_shownParts hp
    exact .part hp (showsImplTrait_of_eq_true p hshows)
termination_by sizeOf t

/-- The check finds exactly what stands where it looks. -/
theorem Ty.showsImplTrait_iff {t : Ty} : t.showsImplTrait = true ↔ t.ShowsImplTrait := by
  constructor
  · exact t.showsImplTrait_of_eq_true
  · intro h
    induction h with
    | self h => rw [showsImplTrait_eq, h, Bool.true_or]
    | part hp _ ih =>
      rw [showsImplTrait_eq, Bool.or_eq_true, List.any_eq_true]
      exact .inr ⟨_, hp, ih⟩

/-! ### What is hidden -/

/-- The types in a generic argument that the check passes over. -/
def GenericArg.hiddenParts : GenericArg → List Ty
  | assocType _ args _ => args.parts
  | assocConst _ args _ => args.parts
  | constraint _ args bounds _ => args.parts ++ boundParts bounds
  | _ => []

def PathArgs.hiddenParts : PathArgs → List Ty
  | none => []
  | angle _ args _ => args.flatMap GenericArg.hiddenParts
  | paren inputs _ output => inputs ++ output.toList

/-- The parts of a type that the check passes over: what function pointers take and give, the
bounds of trait objects, arguments in parentheses, the type that a projection starts from,
and the arguments and bounds of associated items. -/
def Ty.hiddenParts : Ty → List Ty
  | fnPointer _ params _ _ output => params.map FnParam.type ++ output.toList
  | implTrait bounds _ | traitObject _ bounds _ => boundParts bounds
  | invocation p _ _ => p.parts
  | path p => p.segments.flatMap (·.args.hiddenParts)
  | projection self trait rest =>
    self :: (trait.toList.flatMap Path.segments ++ rest).flatMap (·.args.hiddenParts)
  | _ => []

theorem mem_argParts_iff {p : Ty} {args : List GenericArg} :
    p ∈ argParts args ↔ ∃ a ∈ args, p ∈ a.parts := by
  induction args with
  | nil => simp [argParts]
  | cons a args ih => simp [argParts, ih]

theorem mem_segmentParts_iff {p : Ty} {ss : List Segment} :
    p ∈ segmentParts ss ↔ ∃ s ∈ ss, p ∈ s.args.parts := by
  induction ss with
  | nil => simp [segmentParts]
  | cons s ss ih =>
    obtain ⟨name, args⟩ := s
    simp [segmentParts, Segment.args, ih]

theorem GenericArg.mem_parts_iff {p : Ty} {a : GenericArg} :
    p ∈ a.parts ↔ a.shownPart? = some p ∨ p ∈ a.hiddenParts := by
  cases a <;> simp [parts, shownPart?, hiddenParts, eq_comm, or_comm]

theorem PathArgs.mem_parts_iff {p : Ty} {args : PathArgs} :
    p ∈ args.parts ↔ p ∈ args.shownParts ∨ p ∈ args.hiddenParts := by
  cases args with
  | none => simp [parts, shownParts, hiddenParts]
  | angle =>
    simp [parts, shownParts, hiddenParts, mem_argParts_iff, GenericArg.mem_parts_iff,
      and_or_left, exists_or]
  | paren => simp [parts, shownParts, hiddenParts]

theorem mem_segmentParts {p : Ty} {ss : List Segment} :
    p ∈ segmentParts ss ↔
      p ∈ ss.flatMap (·.args.shownParts) ∨ p ∈ ss.flatMap (·.args.hiddenParts) := by
  simp [mem_segmentParts_iff, PathArgs.mem_parts_iff, and_or_left, exists_or]

/-- Every part is looked at or passed over. -/
theorem Ty.mem_parts_iff {p t : Ty} : p ∈ t.parts ↔ p ∈ t.shownParts ∨ p ∈ t.hiddenParts := by
  cases t with
  | path path => exact mem_segmentParts
  | projection self trait rest =>
    have htrait : trait.toList.flatMap Path.parts =
        segmentParts (trait.toList.flatMap Path.segments) := by
      cases trait <;> simp [Path.parts, segmentParts]
    simp only [parts, shownParts, hiddenParts, htrait, List.mem_cons, List.mem_append,
      List.flatMap_append, mem_segmentParts]
    grind
  | _ => simp [parts, shownParts, hiddenParts]

/-- A type that has one without a name behind a part that the check passes over. -/
inductive Ty.HidesImplTrait : Ty → Prop where
  | here {t p : Ty} (h : p ∈ t.hiddenParts) (hp : p.MentionsImplTrait) : HidesImplTrait t
  | part {t p : Ty} (h : p ∈ t.shownParts) (hp : HidesImplTrait p) : HidesImplTrait t

theorem Ty.mentionsImplTrait_of_isImplTrait {t : Ty} (h : t.isImplTrait = true) :
    t.MentionsImplTrait := by
  cases t with
  | implTrait bounds trailing => exact .self bounds trailing
  | _ => cases h

theorem Ty.ShowsImplTrait.mentions {t : Ty} (h : t.ShowsImplTrait) : t.MentionsImplTrait := by
  induction h with
  | self h => exact mentionsImplTrait_of_isImplTrait h
  | part hp _ ih => exact .part (mem_parts_iff.mpr (.inl hp)) ih

theorem Ty.HidesImplTrait.mentions {t : Ty} (h : t.HidesImplTrait) : t.MentionsImplTrait := by
  induction h with
  | here h hp => exact .part (mem_parts_iff.mpr (.inr h)) hp
  | part hp _ ih => exact .part (mem_parts_iff.mpr (.inl hp)) ih

/-- A type without a name is where the check looks or behind a part that it passes over. -/
theorem Ty.mentionsImplTrait_iff {t : Ty} :
    t.MentionsImplTrait ↔ t.ShowsImplTrait ∨ t.HidesImplTrait := by
  constructor
  · intro h
    induction h with
    | self bounds trailing => exact .inl (.self rfl)
    | part hp hmentions ih =>
      rcases mem_parts_iff.mp hp with hshown | hhidden
      · exact ih.imp (.part hshown) (.part hshown)
      · exact .inr (.here hhidden hmentions)
  · rintro (h | h)
    · exact h.mentions
    · exact h.mentions

/-- What is shown is mentioned. -/
theorem Ty.mentionsImplTrait_of_shows (t : Ty) (h : t.showsImplTrait = true) :
    t.MentionsImplTrait := (showsImplTrait_iff.mp h).mentions

end EventWiring.Source
