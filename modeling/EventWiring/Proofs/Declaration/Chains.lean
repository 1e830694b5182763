import EventWiring.Declaration.Expansion
import EventWiring.Proofs.Declaration.Unmarking
import EventWiring.Proofs.Handler.Projection

/-! Chains of accepted blocks. A block that is accepted stands for code, and the code
for a model, on top of the model of its parent. What such a model declares is known
from the methods of the blocks, one by one. -/
namespace EventWiring

open Source

/-! ### Accepted blocks -/

/-- The declaration of a method that is not at fault, if it enters the model. -/
def Source.Method.declaration? (m : Method) : Option Declaration :=
  match Declaration.ofMethod m with
  | .ok d => d
  | .error _ => none

theorem Source.Method.declaration?_eq_some_iff {m : Method} {d : Declaration} :
    m.declaration? = some d ↔ Declaration.ofMethod m = .ok (some d) := by
  unfold declaration?
  cases Declaration.ofMethod m <;> simp

namespace Expansion

theorem declare_snd (ms : List Method) : (declare ms).2 = ms.filterMap Method.declaration? := by
  induction ms with
  | nil => rfl
  | cons m rest ih =>
    rw [declare, List.filterMap_cons, Method.declaration?, ← ih]
    cases Declaration.ofMethod m with
    | error p => rfl
    | ok d => cases d <;> rfl

/-- Without a problem no method is at fault. -/
theorem ofMethod_of_declare {ms : List Method} (h : (declare ms).1 = []) :
    ∀ m ∈ ms, ∃ d, Declaration.ofMethod m = .ok d := by
  induction ms with
  | nil => exact fun m hm => absurd hm List.not_mem_nil
  | cons m rest ih =>
    rw [declare] at h
    cases hm : Declaration.ofMethod m with
    | error p =>
      rw [hm] at h
      cases h
    | ok d =>
      have hrest : (declare rest).1 = [] := by
        rw [hm] at h
        cases d <;> exact h
      intro m' hm'
      rcases List.mem_cons.mp hm' with rfl | hm'
      · exact ⟨d, hm⟩
      · exact ih hrest m' hm'

theorem of_ofBlock_bound {options : BinderOptions} {block stripped : ImplBlock}
    {declarations : List Declaration} {parent : Option Parent}
    (h : ofBlock options block = .ok (.bound stripped declarations parent)) :
    declare block.methods = ([], declarations) ∧
      stripped = block.mapMethods Method.unmarked ∧ parent = options.parent := by
  unfold ofBlock at h
  cases htrait : block.trait with
  | some t => simp [htrait, bind, Except.bind, throw, throwThe, MonadExceptOf.throw] at h
  | none =>
    cases hgenerics : block.generics.items with
    | cons g gs =>
      simp [htrait, hgenerics, bind, Except.bind, throw, throwThe,
        MonadExceptOf.throw] at h
    | nil =>
      simp only [htrait, hgenerics, Option.isSome_none, List.isEmpty_nil, Bool.not_true,
        Bool.false_eq_true, if_false] at h
      cases hdeclare : declare block.methods with
      | mk problems ds =>
        rw [hdeclare] at h
        cases problems with
        | nil =>
          cases h
          exact ⟨rfl, rfl, rfl⟩
        | cons p ps => cases h

end Expansion

/-- A block that is accepted, with its methods in the model. -/
structure AcceptedBlock where
  options : BinderOptions
  block : ImplBlock
  declarations : List Declaration
  accepted : Expansion.ofBlock options block =
    .ok (.bound (block.mapMethods Method.unmarked) declarations options.parent)

/-- A method in the model of a type of targets `T`: the method as it is written, what
its block refers to, and how its target is reached. -/
structure Site (T A : Type) : Type 1 where
  Target : Type
  accessor : T → Target
  meaning : Meaning Target A
  declaredBy : String
  method : Method
  declaration : Declaration

namespace Site

variable {T A C : Type}

/-- What the code of a method contributes to the model. -/
def decl (s : Site T A) : MethodDecl T A :=
  MethodDecl.project { s.meaning.declare s.declaration with declaredBy := s.declaredBy } s.accessor

/-- The same method, in a model of targets that embed the type's. -/
def along (f : C → T) (s : Site T A) : Site C A := { s with accessor := s.accessor ∘ f }

theorem decl_along (f : C → T) (s : Site T A) : (s.along f).decl = s.decl.project f := by
  unfold decl
  rw [MethodDecl.project_project]
  rfl

end Site

namespace AcceptedBlock

variable {T A : Type}

/-- The name of the type of targets. -/
def name (b : AcceptedBlock) : String := Expansion.targetName b.block.target

/-- The methods of a block that enter the model. -/
def sites (b : AcceptedBlock) (μ : Meaning T A) : List (Site T A) :=
  b.block.methods.filterMap fun m => m.declaration?.map fun d => ⟨T, id, μ, b.name, m, d⟩

/-- The calls that build the model, in order. -/
def calls (b : AcceptedBlock) : List ModelCall := modelCalls b.declarations b.options.parent

/-- The model that the calls build, before a parent is taken into it. -/
def own (b : AcceptedBlock) (μ : Meaning T A) : TypeModel T A :=
  b.declarations.foldl (fun m d => m.method (μ.declare d)) (.new b.name)

theorem declare_methods (b : AcceptedBlock) :
    Expansion.declare b.block.methods = ([], b.declarations) :=
  (Expansion.of_ofBlock_bound b.accepted).1

theorem declarations_eq (b : AcceptedBlock) :
    b.declarations = b.block.methods.filterMap Method.declaration? := by
  rw [← Expansion.declare_snd, b.declare_methods]

theorem mem_sites_iff {b : AcceptedBlock} {μ : Meaning T A} {s : Site T A} :
    s ∈ b.sites μ ↔ s.method ∈ b.block.methods ∧
      Declaration.ofMethod s.method = .ok (some s.declaration) ∧
      s = ⟨T, id, μ, b.name, s.method, s.declaration⟩ := by
  rw [sites, List.mem_filterMap]
  constructor
  · rintro ⟨m, hm, hs⟩
    obtain ⟨d, hd, rfl⟩ := Option.map_eq_some_iff.mp hs
    exact ⟨hm, Source.Method.declaration?_eq_some_iff.mp hd, rfl⟩
  · rintro ⟨hm, hd, hs⟩
    rw [hs]
    refine ⟨s.method, hm, ?_⟩
    rw [Source.Method.declaration?_eq_some_iff.mpr hd]
    rfl

/-- No marked method of an accepted block is left out. -/
theorem exists_site_of_marked {b : AcceptedBlock} {m : Method} (hm : m ∈ b.block.methods)
    {options : HandlerOptions} (hmarked : m.handlerOptions = .ok (some options))
    (μ : Meaning T A) : ∃ s ∈ b.sites μ, s.method = m := by
  have haccepted : (Expansion.declare b.block.methods).1 = [] := by rw [b.declare_methods]
  obtain ⟨d?, hd⟩ := Expansion.ofMethod_of_declare haccepted m hm
  cases d? with
  | none =>
    -- a marker leads to a declaration or to a problem
    unfold Declaration.ofMethod at hd
    rw [hmarked] at hd
    obtain ⟨_, hoptions, hd⟩ := ok_bind_iff.mp hd
    cases hoptions
    obtain ⟨d, -, hd⟩ := ok_bind_iff.mp hd
    cases hd
  | some d => exact ⟨⟨T, id, μ, b.name, m, d⟩, mem_sites_iff.mpr ⟨hm, hd, rfl⟩, rfl⟩

/-- Every expansion to a model comes from an accepted block. -/
theorem exists_of_ofTokens {attr item : List Source.Token} {stripped : ImplBlock}
    {declarations : List Declaration} {parent : Option Parent}
    (h : Expansion.ofTokens attr item = .ok (.bound stripped declarations parent)) :
    ∃ b : AcceptedBlock, BinderOptions.ofTokens attr = .ok b.options ∧
      ImplBlock.ofTokens item = .ok b.block ∧ b.declarations = declarations ∧
      b.options.parent = parent ∧ stripped = b.block.mapMethods Method.unmarked := by
  obtain ⟨options, hoptions, h⟩ := ok_bind_iff.mp h
  cases hblock : ImplBlock.ofTokens item with
  | error e =>
    rw [hblock] at h
    cases h
  | ok block =>
    rw [hblock] at h
    obtain ⟨-, rfl, rfl⟩ := Expansion.of_ofBlock_bound h
    exact ⟨⟨options, block, declarations, h⟩, hoptions, rfl, rfl, rfl, rfl⟩

/-- Declaring methods one after the other adds them to the layer of the type. -/
theorem foldl_method (m : TypeModel T A) (ds : List (MethodDecl T A)) :
    ds.foldl TypeModel.method m =
      ⟨⟨m.name, m.own.declared ++ ds.map fun d => { d with declaredBy := m.name }⟩,
        m.ancestors⟩ := by
  induction ds generalizing m with
  | nil => simp [TypeModel.name]
  | cons d rest ih =>
    rw [List.foldl_cons, ih]
    simp [TypeModel.method, TypeModel.name]

theorem map_decl_sites (b : AcceptedBlock) (μ : Meaning T A) :
    (b.sites μ).map Site.decl =
      b.declarations.map fun d => { μ.declare d with declaredBy := b.name } := by
  rw [declarations_eq, sites, List.map_filterMap, List.map_filterMap]
  -- the methods of the type itself are reached through the identity
  refine congrArg (List.filterMap · b.block.methods) (funext fun m => ?_)
  rw [Option.map_map]
  exact congrArg (Option.map · m.declaration?) (funext fun d => MethodDecl.project_id _)

theorem own_eq (b : AcceptedBlock) (μ : Meaning T A) :
    b.own μ = ⟨⟨b.name, (b.sites μ).map Site.decl⟩, []⟩ := by
  have hfold : b.own μ = (b.declarations.map μ.declare).foldl TypeModel.method (.new b.name) := by
    rw [List.foldl_map]
    rfl
  rw [hfold, foldl_method, map_decl_sites, List.map_map]
  rfl

end AcceptedBlock

/-- What a call in the code of a block builds. The parent's type has a model `above`, and
`accessor` reaches the parent's field. -/
def Meaning.modelStep {T P A : Type} (μ : Meaning T A) (above : TypeModel P A) (accessor : T → P)
    (m : TypeModel T A) : ModelCall → TypeModel T A
  | .method d => m.method (μ.declare d)
  | .extending _ => m.extending above accessor

namespace AcceptedBlock

variable {T P A : Type}

/-- The model that the code builds. -/
def model (b : AcceptedBlock) (μ : Meaning T A) (above : TypeModel P A) (accessor : T → P) :
    TypeModel T A :=
  b.calls.foldl (μ.modelStep above accessor) (.new b.name)

theorem model_eq (b : AcceptedBlock) (μ : Meaning T A) (above : TypeModel P A)
    (accessor : T → P) :
    b.model μ above accessor =
      match b.options.parent with
      | none => b.own μ
      | some _ => (b.own μ).extending above accessor := by
  rw [model, calls, modelCalls, List.foldl_append, List.foldl_map, List.foldl_map]
  cases b.options.parent <;> rfl

end AcceptedBlock

/-! ### Chains -/

/-- A chain of accepted blocks, each of which gives the next one as its parent and a
field that holds it, up to one without a parent. -/
inductive Chain (A : Type) : Type → Type 1 where
  | root {T : Type} (b : AcceptedBlock) (μ : Meaning T A) (h : b.options.parent = none) : Chain A T
  | child {T P : Type} (b : AcceptedBlock) (μ : Meaning T A) (parent : Parent)
    (h : b.options.parent = some parent) (accessor : T → P) (above : Chain A P) : Chain A T

namespace Chain

variable {A : Type}

/-- The blocks, from the last one up. -/
def blocks : {T : Type} → Chain A T → List AcceptedBlock
  | _, root b _ _ => [b]
  | _, child b _ _ _ _ above => b :: above.blocks

/-- A model that the code of the blocks builds, each block's calls on the model of its
parent. What a block without a parent finds in place of that does not matter. -/
inductive Builds : {T : Type} → Chain A T → TypeModel T A → Prop where
  | root {T P : Type} {b : AcceptedBlock} {μ : Meaning T A} {h : b.options.parent = none}
    (above : TypeModel P A) (accessor : T → P) : Builds (root b μ h) (b.model μ above accessor)
  | child {T P : Type} {b : AcceptedBlock} {μ : Meaning T A} {parent : Parent}
    {h : b.options.parent = some parent} {accessor : T → P} {above : Chain A P}
    {m : TypeModel P A} (habove : Builds above m) :
    Builds (child b μ parent h accessor above) (b.model μ m accessor)

/-- The model of the last block, with those of the others taken into it. -/
def model : {T : Type} → Chain A T → TypeModel T A
  | _, root b μ _ => b.own μ
  | _, child b μ _ _ accessor above => (b.own μ).extending above.model accessor

/-- The methods of the blocks that enter the model, those of the last block first. -/
def sites : {T : Type} → Chain A T → List (Site T A)
  | _, root b μ _ => b.sites μ
  | _, child b μ _ _ accessor above => b.sites μ ++ above.sites.map (·.along accessor)

/-- The methods of the blocks as they are written. -/
def methods : {T : Type} → Chain A T → List Method
  | _, root b _ _ => b.block.methods
  | _, child b _ _ _ _ above => b.block.methods ++ above.methods

theorem model_child {T P : Type} (b : AcceptedBlock) (μ : Meaning T A) (parent : Parent)
    (h : b.options.parent = some parent) (accessor : T → P) (above : Chain A P) :
    (child b μ parent h accessor above).model = b.model μ above.model accessor := by
  rw [Chain.model, b.model_eq, h]

/-- The code of the blocks builds one model. -/
theorem builds_iff {T : Type} {c : Chain A T} {m : TypeModel T A} : c.Builds m ↔ m = c.model := by
  constructor
  · intro hbuilds
    induction hbuilds with
    | @root _ _ b μ h above accessor => rw [b.model_eq, h, Chain.model]
    | @child _ _ b μ parent h accessor above m _ ih => rw [ih, model_child]
  · rintro rfl
    induction c with
    | root b μ h =>
      have hmodel : (root b μ h).model = b.model μ (.new b.name) id := by rw [b.model_eq, h, model]
      exact hmodel ▸ .root _ _
    | child b μ parent h accessor above ih =>
      rw [model_child]
      exact .child ih

theorem ofMethod_of_mem_sites {T : Type} (c : Chain A T) :
    ∀ s ∈ c.sites, Declaration.ofMethod s.method = .ok (some s.declaration) := by
  induction c with
  | root b μ _ =>
    intro s hs
    exact (AcceptedBlock.mem_sites_iff.mp hs).2.1
  | child b μ _ _ accessor above ih =>
    intro s hs
    rcases List.mem_append.mp hs with hs | hs
    · exact (AcceptedBlock.mem_sites_iff.mp hs).2.1
    · obtain ⟨s', hs', rfl⟩ := List.mem_map.mp hs
      exact ih s' hs'

theorem exists_site_of_marked {T : Type} {c : Chain A T} {m : Method} (hm : m ∈ c.methods)
    {options : HandlerOptions} (hmarked : m.handlerOptions = .ok (some options)) :
    ∃ s ∈ c.sites, s.method = m := by
  induction c with
  | root b μ _ => exact AcceptedBlock.exists_site_of_marked hm hmarked μ
  | child b μ _ _ accessor above ih =>
    rcases List.mem_append.mp hm with hm | hm
    · obtain ⟨s, hs, he⟩ := AcceptedBlock.exists_site_of_marked hm hmarked μ
      exact ⟨s, List.mem_append_left _ hs, he⟩
    · obtain ⟨s, hs, he⟩ := ih hm
      exact ⟨s.along accessor, List.mem_append_right _ (List.mem_map_of_mem hs), he⟩

theorem declarations_model {T : Type} (c : Chain A T) :
    c.model.declarations = c.sites.map Site.decl := by
  induction c with
  | root b μ _ =>
    rw [model, sites, AcceptedBlock.own_eq]
    simp [TypeModel.declarations, TypeModel.lineage]
  | child b μ _ _ accessor above ih =>
    have hextends := (b.own μ).extends_extending above.model accessor
    have halong : above.model.declarations.map (·.project accessor) =
        (above.sites.map (·.along accessor)).map Site.decl := by
      rw [ih, List.map_map, List.map_map]
      exact List.map_congr_left fun s _ => (s.decl_along accessor).symm
    rw [model, hextends.declarations_eq, halong, sites, List.map_append, b.own_eq]
    rfl

end Chain

end EventWiring
