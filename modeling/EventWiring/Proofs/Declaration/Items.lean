import EventWiring.Proofs.Declaration.Mentions
import EventWiring.Proofs.Declaration.Stripping
import Mathlib.Data.List.ReduceOption

/-! What the items of an accepted block declare. Each item stands for one declaration in
the model of the type or for none: a marked method for a handler, an unmarked one that
could hide a handler for a declaration without a mark, and anything else for none. The
parent comes into the model if the block's options give its type and its field. -/
namespace EventWiring

open Source Code

variable {T A : Type}

/-! ### What items stand for -/

/-- What an unmarked method is like that could hide an inherited handler. Types that are
`unnamed` cannot stand in the code for it. -/
structure Source.Method.MayHide (unnamed : Ty → Prop) (m : Method) : Prop where
  plain : m.isGeneric = false
  sync : m.signature.isAsync = false
  target : m.sharesTarget = true
  param : m.params = [] ∨ ∃ p lifetime elem,
    m.params = [p] ∧ p.type = .reference lifetime false elem ∧ ¬unnamed p.type

/-- The declaration that an item stands for in the model of a type, or that it stands for
none. -/
inductive Declares (unnamed : Ty → Prop) (μ : Meaning T A) (type : String) :
    ImplItem → Option (MethodDecl T A) → Prop
  /-- A handler without a parameter runs on every event, with its target alone. -/
  | alone {m : Method} {marker : Attribute} {options : HandlerOptions}
    (marked : m.markers = [marker]) (lists : Method.markerOptions marker = .ok options)
    (params : m.params = []) :
    Declares unnamed μ type (.method m) (some
      { name := m.name, declaredBy := type, params := []
        annotation := some ⟨options.handles.map fun t => .type (μ.event t)⟩
        invoker := some fun target _ => some (μ.invoke m.name target none) })
  /-- A handler with a parameter gets the events that are of its type. -/
  | taking {m : Method} {marker : Attribute} {options : HandlerOptions} {p : Param}
    {lifetime : Option String} {elem : Ty}
    (marked : m.markers = [marker]) (lists : Method.markerOptions marker = .ok options)
    (params : m.params = [p]) (shared : p.type = .reference lifetime false elem) :
    Declares unnamed μ type (.method m) (some
      { name := m.name, declaredBy := type, params := [.event (μ.event elem)]
        annotation := some ⟨options.handles.map fun t => .type (μ.event t)⟩
        invoker := some fun target e =>
          if (μ.event elem).accepts e then some (μ.invoke m.name target (some e)) else none })
  | overriding {m : Method} (unmarked : m.markers = []) (hides : m.MayHide unnamed) :
    Declares unnamed μ type (.method m) (some
      { name := m.name, declaredBy := type
        params := m.params.map fun p => .foreign (μ.typeName p.type)
        annotation := none, invoker := none })
  | skipped {m : Method} (unmarked : m.markers = []) (skips : ¬m.MayHide unnamed) :
    Declares unnamed μ type (.method m) none
  | other (tokens : List Source.Token) : Declares unnamed μ type (.other tokens) none

/-- No item stands for two things. -/
theorem Declares.unique {unnamed : Ty → Prop} {μ : Meaning T A} {type : String} :
    Relator.RightUnique (Declares unnamed μ type) := by
  intro item part part' h h'
  -- two ways to read one item contradict each other in its markers, parameters or form
  cases h <;> cases h' <;> simp_all

/-- A type gives the shape of an event if it is a shared reference and shows none without
a name. -/
theorem Shape.ofType?_eq_some_iff {t : Ty} {shape : Shape} :
    ofType? t = some shape ↔ ∃ lifetime elem, t = .reference lifetime false elem ∧
      t.showsImplTrait = false ∧ shape = .event lifetime elem := by
  constructor
  · intro h
    unfold ofType? at h
    split at h
    · rename_i lifetime elem
      split at h
      · cases h
      · rename_i hshows
        exact ⟨lifetime, elem, rfl, Bool.eq_false_iff.mpr hshows, (Option.some.inj h).symm⟩
    · cases h
  · rintro ⟨lifetime, elem, rfl, hshows, rfl⟩
    have helem : elem.showsImplTrait = false := hshows
    rw [ofType?, helem]
    rfl

namespace Declaration

variable {m : Method}

theorem hidingShape?_eq_some_iff {shape : Shape} :
    hidingShape? m = some shape ↔
      (m.params = [] ∧ shape = .alone) ∨ ∃ p lifetime elem, m.params = [p] ∧
        p.type = .reference lifetime false elem ∧ p.type.showsImplTrait = false ∧
        shape = .event lifetime elem := by
  unfold hidingShape?
  match m.params with
  | [] => simp [@eq_comm _ shape]
  | [p] =>
    rw [Shape.ofType?_eq_some_iff]
    constructor
    · rintro ⟨lifetime, elem, hshared, hshows, rfl⟩
      exact .inr ⟨p, lifetime, elem, rfl, hshared, hshows, rfl⟩
    · rintro (⟨hnone, -⟩ | ⟨_, lifetime, elem, hp, hshared, hshows, rfl⟩)
      · cases hnone
      · cases hp
        exact ⟨lifetime, elem, hshared, hshows, rfl⟩
  | _ :: _ :: _ => simp

theorem mayHide_iff :
    m.MayHide (·.showsImplTrait = true) ↔ ∃ d, ofUnmarked? m = some d := by
  simp only [ofUnmarked?_eq_some_iff, hidingShape?_eq_some_iff]
  constructor
  · rintro ⟨hplain, hsync, htarget, hparams | ⟨p, lifetime, elem, hparams, hshared, hshows⟩⟩
    · exact ⟨_, hplain, hsync, htarget, .alone, .inl ⟨hparams, rfl⟩, rfl⟩
    · exact ⟨_, hplain, hsync, htarget, .event lifetime elem, .inr
        ⟨p, lifetime, elem, hparams, hshared, Bool.eq_false_iff.mpr hshows, rfl⟩, rfl⟩
  · rintro ⟨_, hplain, hsync, htarget, shape, ⟨hparams, -⟩ |
      ⟨p, lifetime, elem, hparams, hshared, hshows, -⟩, -⟩
    · exact ⟨hplain, hsync, htarget, .inl hparams⟩
    · exact ⟨hplain, hsync, htarget, .inr
        ⟨p, lifetime, elem, hparams, hshared, Bool.eq_false_iff.mp hshows⟩⟩

theorem ofMethod_ok_none_iff :
    ofMethod m = .ok none ↔ m.handlerOptions = .ok none ∧ ofUnmarked? m = none := by
  unfold ofMethod
  rw [ok_bind_iff]
  constructor
  · rintro ⟨_ | options, hoptions, h⟩
    · exact ⟨hoptions, Except.ok.inj h⟩
    · obtain ⟨d, -, h⟩ := ok_bind_iff.mp h
      cases h
  · rintro ⟨hoptions, h⟩
    exact ⟨none, hoptions, congrArg Except.ok h⟩

variable (μ : Meaning T A) (type : String)

/-- An unmarked method stands for what it is declared as, if it is. -/
theorem declares_of_ofUnmarked? (unmarked : m.markers = []) :
    Declares (·.showsImplTrait = true) μ type (.method m)
      ((ofUnmarked? m).map fun d => { μ.declare d with declaredBy := type }) := by
  cases hd : ofUnmarked? m with
  | none =>
    refine .skipped unmarked fun hides => ?_
    obtain ⟨d, hsome⟩ := mayHide_iff.mp hides
    rw [hd] at hsome
    cases hsome
  | some d =>
    have hides := mayHide_iff.mpr ⟨d, hd⟩
    obtain ⟨-, -, -, shape, hshape, rfl⟩ := ofUnmarked?_eq_some_iff.mp hd
    have hdeclared : Declares (·.showsImplTrait = true) μ type (.method m) _ :=
      .overriding unmarked hides
    rcases hidingShape?_eq_some_iff.mp hshape with
      ⟨hparams, rfl⟩ | ⟨p, lifetime, elem, hparams, hshared, -, rfl⟩
    · rw [hparams] at hdeclared
      exact hdeclared
    · rw [hparams, List.map_singleton, hshared] at hdeclared
      exact hdeclared

/-- A marked method that is not at fault stands for a handler. -/
theorem declares_of_ofHandler {options : HandlerOptions} {d : Declaration}
    (marked : m.handlerOptions = .ok (some options)) (h : ofMethod m = .ok (some d)) :
    Declares (·.showsImplTrait = true) μ type (.method m)
      (some { μ.declare d with declaredBy := type }) := by
  obtain ⟨marker, hmarker, hlists⟩ := Method.marker_of_handlerOptions marked
  obtain ⟨-, shape, hshape, rfl⟩ := of_marked h marked
  rcases hidingShape?_eq_some_iff.mp hshape with
    ⟨hparams, rfl⟩ | ⟨p, lifetime, elem, hparams, hshared, -, rfl⟩
  · have hdeclared : Declares (·.showsImplTrait = true) μ type (.method m) _ :=
      .alone hmarker hlists hparams
    obtain ⟨_ | ⟨t, ts⟩⟩ := options <;> exact hdeclared
  · have hdeclared : Declares (·.showsImplTrait = true) μ type (.method m) _ :=
      .taking hmarker hlists hparams hshared
    obtain ⟨_ | ⟨t, ts⟩⟩ := options <;> exact hdeclared

theorem declares_of_ofMethod {d? : Option Declaration} (h : ofMethod m = .ok d?) :
    Declares (·.showsImplTrait = true) μ type (.method m)
      (d?.map fun d => { μ.declare d with declaredBy := type }) := by
  cases d? with
  | none =>
    obtain ⟨hoptions, hnone⟩ := ofMethod_ok_none_iff.mp h
    rw [← hnone]
    exact declares_of_ofUnmarked? μ type (Method.markers_of_handlerOptions hoptions)
  | some d =>
    rcases ofMethod_ok_some_iff.mp h with ⟨hoptions, hd⟩ | ⟨options, hoptions, -⟩
    · rw [← hd]
      exact declares_of_ofUnmarked? μ type (Method.markers_of_handlerOptions hoptions)
    · exact declares_of_ofHandler μ type hoptions h

end Declaration

/-! ### Types that are not shown -/

theorem Source.Method.MayHide.imp {p q : Ty → Prop} {m : Method} (h : m.MayHide q)
    (hpq : ∀ t, p t → q t) : m.MayHide p :=
  ⟨h.plain, h.sync, h.target, h.param.imp_right fun ⟨x, lifetime, elem, hparams, hshared, hq⟩ =>
    ⟨x, lifetime, elem, hparams, hshared, fun hp => hq (hpq _ hp)⟩⟩

variable {μ : Meaning T A} {type : String}

/-- To go by what is mentioned and not by what is shown makes a difference for unmarked
methods only. -/
theorem Declares.mentions_iff {item : ImplItem} {part : Option (MethodDecl T A)}
    (h : Declares (·.showsImplTrait = true) μ type item part) :
    Declares Ty.MentionsImplTrait μ type item part ↔
      ∀ m ∈ item.method?, m.markers = [] → m.MayHide (·.showsImplTrait = true) →
        m.MayHide Ty.MentionsImplTrait := by
  constructor
  · rintro h' m hm unmarked hides
    cases h with
    | alone marked | taking marked =>
      cases hm
      rw [unmarked] at marked
      cases marked
    | overriding =>
      cases hm
      generalize he : some (MethodDecl.mk ..) = part at h'
      cases h' with
      | alone marked | taking marked =>
        rw [unmarked] at marked
        cases marked
      | overriding _ hides' => exact hides'
      | skipped => cases he
    | skipped _ skips =>
      cases hm
      exact absurd hides skips
    | other => cases hm
  · intro hall
    cases h with
    | alone marked lists params => exact .alone marked lists params
    | taking marked lists params shared => exact .taking marked lists params shared
    | overriding unmarked hides => exact .overriding unmarked (hall _ rfl unmarked hides)
    | skipped unmarked skips =>
      exact .skipped unmarked fun hides => skips (hides.imp Ty.mentionsImplTrait_of_shows)
    | other tokens => exact .other tokens

theorem forall₂_iff_forall_mem {α β : Type} {R S : α → β → Prop} {Q : α → Prop} {xs : List α}
    {ys : List β} (h : List.Forall₂ R xs ys) (hiff : ∀ x y, R x y → (S x y ↔ Q x)) :
    List.Forall₂ S xs ys ↔ ∀ x ∈ xs, Q x := by
  induction h with
  | nil => exact iff_of_true .nil fun _ hx => absurd hx List.not_mem_nil
  | cons hxy _ ih => rw [List.forall₂_cons, List.forall_mem_cons, hiff _ _ hxy, ih]

theorem forall₂_mentions_iff {items : List ImplItem} {parts : List (Option (MethodDecl T A))}
    (h : List.Forall₂ (Declares (·.showsImplTrait = true) μ type) items parts) :
    List.Forall₂ (Declares Ty.MentionsImplTrait μ type) items parts ↔
      ∀ m ∈ items.filterMap ImplItem.method?, m.markers = [] →
        m.MayHide (·.showsImplTrait = true) → m.MayHide Ty.MentionsImplTrait := by
  rw [forall₂_iff_forall_mem h fun item part => Declares.mentions_iff]
  simp only [List.mem_filterMap]
  constructor
  · rintro hall m ⟨item, hitem, hm⟩
    exact hall item hitem m hm
  · intro hall item hitem m hm
    exact hall m ⟨item, hitem, hm⟩

/-! ### The parent -/

/-- A block has a parent if its options give type and field, and none if they give
neither. -/
theorem BinderOptions.parent_of_ofFound {found : BinderOptions.Found} {options : BinderOptions}
    (h : ofFound found = .ok options) :
    (∀ t field, options.parent = some ⟨t, field⟩ ↔ found = ⟨some t, some field⟩) ∧
      (options.parent = none ↔ found = ⟨none, none⟩) := by
  obtain ⟨_ | t, _ | field⟩ := found <;> cases h
  · simp
  · simp

namespace AcceptedBlock

variable {P : Type}

theorem parent?_model (b : AcceptedBlock) (μ : Meaning T A) (above : TypeModel P A)
    (accessor : T → P) :
    (b.model μ above accessor).parent? =
      b.options.parent.map fun _ => above.project accessor := by
  rw [model_eq]
  cases b.options.parent with
  | none =>
    dsimp only
    rw [own_eq]
    rfl
  | some parent => exact ((b.own μ).extends_extending above accessor).parent?_eq

/-- What an item of an accepted block contributes to the model. -/
def part (b : AcceptedBlock) (μ : Meaning T A) (item : ImplItem) : Option (MethodDecl T A) :=
  (item.method?.bind Method.declaration?).map fun d => { μ.declare d with declaredBy := b.name }

theorem own_model (b : AcceptedBlock) (μ : Meaning T A) (above : TypeModel P A)
    (accessor : T → P) :
    (b.model μ above accessor).own = ⟨b.name, (b.block.items.map (b.part μ)).reduceOption⟩ := by
  have hown : (b.model μ above accessor).own = (b.own μ).own := by
    rw [model_eq]
    cases b.options.parent <;> rfl
  rw [hown, own_eq, map_decl_sites, declarations_eq, ImplBlock.methods, List.filterMap_filterMap,
    List.map_filterMap, List.reduceOption, List.filterMap_map]
  rfl

/-- Each item of an accepted block stands for what it contributes. -/
theorem declares_part (b : AcceptedBlock) (μ : Meaning T A) :
    List.Forall₂ (Declares (·.showsImplTrait = true) μ b.name) b.block.items
      (b.block.items.map (b.part μ)) := by
  have haccepted : (Expansion.declare b.block.methods).1 = [] := by rw [b.declare_methods]
  rw [List.forall₂_map_right_iff, List.forall₂_same]
  rintro (m | tokens) hitem
  · have hm : m ∈ b.block.methods := List.mem_filterMap.mpr ⟨_, hitem, rfl⟩
    obtain ⟨d?, hd⟩ := Expansion.ofMethod_of_declare haccepted m hm
    have hdeclaration : m.declaration? = d? := by rw [Method.declaration?, hd]
    have hpart : b.part μ (.method m) =
        d?.map fun d => { μ.declare d with declaredBy := b.name } := by
      rw [← hdeclaration]
      rfl
    rw [hpart]
    exact Declaration.declares_of_ofMethod μ b.name hd
  · exact .other tokens

end AcceptedBlock

/-- The code for a block that is accepted is the block without its markers and an item with
a chain of calls. What these build declares
what the items of the block stand for, in their order and nothing else: a marked method
is a handler, and an unmarked one is declared if it could hide a handler and the type of
its parameter shows none without a name. To go by the types that are mentioned would give
the same model exactly if no unmarked method that is declared takes a type that mentions
one and does not show it. The model has a parent exactly if the options give the parent's
type and its field. -/
theorem model_declares_items {attr item : List Source.Token} {stripped : ImplBlock}
    {declarations : List Declaration} {parent : Option Parent}
    (accepted : Expansion.ofTokens attr item = .ok (.bound stripped declarations parent)) :
    ∃ b : AcceptedBlock, ImplBlock.ofTokens item = .ok b.block ∧
      b.declarations = declarations ∧ b.options.parent = parent ∧
      expandBlock attr item = stripped.tokens ++ Emitted.targetItem b.block.target b.calls ∧
      Expansion.modelCode b.block.target declarations parent =
        Emitted.model b.block.target b.calls ∧
      (∀ d ∈ declarations, d.code = d.emitted) ∧
      (∃ found, OptionReader.read BinderOptions.option ⟨none, none⟩ attr = .ok found ∧
        (∀ t field, parent = some ⟨t, field⟩ ↔ found = ⟨some t, some field⟩) ∧
        (parent = none ↔ found = ⟨none, none⟩)) ∧
      ∀ {T P A : Type} (μ : Meaning T A) (above : TypeModel P A) (accessor : T → P),
        (b.model μ above accessor).parent? = parent.map (fun _ => above.project accessor) ∧
        ∃ parts, (b.model μ above accessor).own = ⟨b.name, parts.reduceOption⟩ ∧
          (∀ parts', List.Forall₂ (Declares (·.showsImplTrait = true) μ b.name) b.block.items
            parts' ↔ parts' = parts) ∧
          (List.Forall₂ (Declares Ty.MentionsImplTrait μ b.name) b.block.items parts ↔
            ∀ m ∈ b.block.methods, m.markers = [] → m.MayHide (·.showsImplTrait = true) →
              m.MayHide Ty.MentionsImplTrait) := by
  obtain ⟨b, hoptions, hblock, rfl, rfl, rfl⟩ := AcceptedBlock.exists_of_ofTokens accepted
  obtain ⟨found, hread, hfound⟩ := ok_bind_iff.mp hoptions
  refine ⟨b, hblock, rfl, rfl, ?_, Expansion.modelCode_eq .., fun d _ => d.code_eq_chain,
    ⟨found, hread, ?_⟩, ?_⟩
  · rw [expandBlock, accepted]
    exact congrArg _ (Expansion.targetCode_eq ..)
  · exact BinderOptions.parent_of_ofFound hfound
  · intro T P A μ above accessor
    have hparts := b.declares_part μ
    refine ⟨b.parent?_model μ above accessor, _, b.own_model μ above accessor, fun parts' => ?_,
      forall₂_mentions_iff hparts⟩
    constructor
    · intro hparts'
      exact List.right_unique_forall₂' Declares.unique hparts' hparts
    · rintro rfl
      exact hparts

/-- An unmarked method of a shared target, without parameters. -/
def plainMethod (name : String) : Method :=
  { attrs := [], visibility := [], isDefault := false
    signature :=
      { isConst := false, isAsync := false, safety := [], abi := [], name
        generics := ⟨[], false⟩
        inputs := ⟨some ⟨[], some none, false, none⟩, [], false, []⟩
        output := none, whereClause := [] }
    body := [] }

/-- A block of items with no more than that and a type. -/
def plainBlock (target : String) (items : List ImplItem) : ImplBlock :=
  ⟨[], false, false, ⟨[], false⟩, none, .path (.ofName target), [], items⟩

/-- A handler with a list and a method that could hide one, in a block with a parent. -/
theorem model_declares_items_of_parent :
    let opened : Ty := .path (.ofName "Opened")
    let attr : List Source.Token := word "extends" ++ Source.Token.operator "=" ++
      word "Counter" ++ Source.Token.operator "," ++ word "via" ++ Source.Token.operator "=" ++
      word "counter"
    let marker : Attribute := ⟨false, false, ["event_handler"], .list .parenthesis
      (word "handles" ++ Source.Token.operator "=" ++ [.group .bracket opened.tokens])⟩
    let block := plainBlock "Panel"
      [.method { plainMethod "on_any" with attrs := [marker] }, .method (plainMethod "refresh")]
    let above : TypeModel Nat Nat := .new "Counter"
    let μ : Meaning (Nat × Nat) Nat := ⟨fun _ => .base, fun _ => "", fun _ target _ => target.1⟩
    Expansion.ofTokens attr block.tokens = .ok (.bound (block.mapMethods Method.unmarked)
        [⟨"on_any", .alone, some [opened]⟩, ⟨"refresh", .alone, none⟩]
        (some ⟨.path (.ofName "Counter"), .named "counter"⟩)) ∧
      ∃ b : AcceptedBlock, ImplBlock.ofTokens block.tokens = .ok b.block ∧
        (b.model μ above Prod.snd).parent? = some (above.project Prod.snd) ∧
        ∃ parts, (b.model μ above Prod.snd).own = ⟨b.name, parts.reduceOption⟩ ∧
          List.Forall₂ (Declares (·.showsImplTrait = true) μ b.name) b.block.items parts := by
  intro opened attr marker block above μ
  let parent : Parent := ⟨.path (.ofName "Counter"), .named "counter"⟩
  have hattr : BinderOptions.ofTokens attr = .ok ⟨some parent⟩ := by rfl
  have hitem : ImplBlock.ofTokens block.tokens = .ok block := by
    set_option maxRecDepth 8192 in rfl
  have hblock : Expansion.ofBlock ⟨some parent⟩ block =
      .ok (.bound (block.mapMethods Method.unmarked)
        [⟨"on_any", .alone, some [opened]⟩, ⟨"refresh", .alone, none⟩] (some parent)) := rfl
  have accepted := Expansion.ofTokens_of_ofBlock hblock hattr hitem
  obtain ⟨b, hblock, -, -, -, -, -, -, hmodel⟩ := model_declares_items accepted
  obtain ⟨hparent, parts, hown, hparts, -⟩ := hmodel μ above Prod.snd
  exact ⟨accepted, b, hblock, hparent, parts, hown, (hparts parts).mpr rfl⟩

/-- An unmarked method with a type in the bounds of its parameter's type that has no
name. -/
theorem declares_type_that_is_not_shown :
    let display : Ty := .implTrait [.trait false false [] (.ofName "Display")] false
    let labels : Ty := .traitObject true [.trait false false [] (.mk false
      [.mk "Iterator" (.angle false [.assocType "Item" .none display] false)])] false
    let m := (Declaration.markedMethod "show_all" (.reference none false labels)).unmarked
    let block := plainBlock "Panel" [.method m]
    Expansion.ofBlock ⟨none⟩ block =
        .ok (.bound block [⟨"show_all", .event none labels, none⟩] none) ∧
      m.markers = [] ∧ (Ty.reference none false labels).MentionsImplTrait ∧
      ¬m.MayHide Ty.MentionsImplTrait := by
  intro display labels m block
  have hlabels : labels.MentionsImplTrait := .part (List.mem_singleton_self display) (.self _ _)
  have hmentions : (Ty.reference none false labels).MentionsImplTrait :=
    .part (List.mem_singleton_self labels) hlabels
  refine ⟨rfl, rfl, hmentions, fun hides => ?_⟩
  rcases hides.param with hnone | ⟨p, lifetime, elem, hparams, -, hnamed⟩
  · cases hnone
  · cases hparams
    exact hnamed hmentions

end EventWiring
