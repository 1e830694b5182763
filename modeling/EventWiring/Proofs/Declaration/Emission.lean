import EventWiring.Declaration.Expansion

/-! The code for a block, token by token. Each piece is written out as it stands in the
source, and what the code is put together from is shown to give it. -/
namespace EventWiring

open Source Code

/-! ### Names of the library -/

namespace Emitted

/-- The name `::eventbind::item`. -/
def libraryItem (item : String) : List Source.Token :=
  [.punct ':' true, .punct ':' false, .ident "eventbind",
    .punct ':' true, .punct ':' false, .ident item]

/-- The name `::eventbind::item::function`. -/
def libraryFunction (item function : String) : List Source.Token :=
  libraryItem item ++ [.punct ':' true, .punct ':' false, .ident function]

end Emitted

open Emitted

/-! ### Errors -/

theorem Source.Marked.join_false (mark : String) (items : List (List Source.Token)) :
    join mark false items = (Source.Token.operator mark).intercalate items := by
  induction items with
  | nil => rfl
  | cons ts rest ih =>
    cases rest with
    | nil => simp [join]
    | cons us rest => rw [join, ih, List.intercalate_cons_cons]

namespace Code

theorem call_eq (name : String) (generics args : List Source.Token) :
    call name generics args =
      [.punct '.' false, .ident name] ++ generics ++ [.group .parenthesis args] := rfl

theorem turbofish_eq (args : List Source.Token) :
    turbofish args =
      [.punct ':' true, .punct ':' false, .punct '<' false] ++ args ++ [.punct '>' false] := rfl

theorem listed_pair (one two : List Source.Token) :
    listed [one, two] = one ++ [.punct ',' false] ++ two := by
  have hcomma : Source.Token.operator "," = [.punct ',' false] := rfl
  simp [listed, Source.Marked.join, hcomma]

theorem asTrait_eq (t : Ty) (item : String) :
    asTrait t item = [.punct '<' false] ++ t.tokens ++ ([.ident "as"] ++ libraryItem item) ++
      [.punct '>' false] := by
  simp only [asTrait, List.append_assoc]
  rfl

end Code

/-! ### Declarations -/

/-- A call in the chain that builds a declaration. -/
inductive BuilderCall where
  | annotated (handles : List Ty)
  | paramOpaque (written : Ty)
  | handlesEvent (elem : Ty)
  | handlesNone

/-- An event of a list:
`::eventbind::EventRef::from(<T as ::eventbind::HandlerParam>::event_type())`. -/
def Emitted.listedEvent (t : Ty) : List Source.Token :=
  libraryFunction "EventRef" "from" ++
    [.group .parenthesis
      ([.punct '<' false] ++ t.tokens ++ [.ident "as"] ++ libraryItem "HandlerParam" ++
        [.punct '>' false, .punct ':' true, .punct ':' false, .ident "event_type",
          .group .parenthesis []])]

/-- A call as it stands in the code of a method: one of
`.annotated(::eventbind::HandlerAnnotation::handles([..]))`, `.param_opaque::<T>()`,
`.handles_event::<T, _>(|target: &Self, event| Self::method(target, event))` and
`.handles_none(|target: &Self| Self::method(target))`. -/
def BuilderCall.tokens (method : String) : BuilderCall → List Source.Token
  | annotated handles =>
    [.punct '.' false, .ident "annotated",
      .group .parenthesis (libraryFunction "HandlerAnnotation" "handles" ++
        [.group .parenthesis
          [.group .bracket ([.punct ',' false].intercalate (handles.map listedEvent))]])]
  | paramOpaque written =>
    [.punct '.' false, .ident "param_opaque", .punct ':' true, .punct ':' false,
      .punct '<' false] ++ written.tokens ++ [.punct '>' false, .group .parenthesis []]
  | handlesEvent elem =>
    [.punct '.' false, .ident "handles_event", .punct ':' true, .punct ':' false,
      .punct '<' false] ++ elem.tokens ++ [.punct ',' false, .ident "_", .punct '>' false,
      .group .parenthesis
        [.punct '|' false, .ident "target", .punct ':' false, .punct '&' false, .ident "Self",
          .punct ',' false, .ident "event", .punct '|' false,
          .ident "Self", .punct ':' true, .punct ':' false, .ident method,
          .group .parenthesis [.ident "target", .punct ',' false, .ident "event"]]]
  | handlesNone =>
    [.punct '.' false, .ident "handles_none",
      .group .parenthesis
        [.punct '|' false, .ident "target", .punct ':' false, .punct '&' false, .ident "Self",
          .punct '|' false, .ident "Self", .punct ':' true, .punct ':' false, .ident method,
          .group .parenthesis [.ident "target"]]]

/-- The last call for a handler. -/
def Shape.handlerCall : Shape → BuilderCall
  | alone => .handlesNone
  | event _ elem => .handlesEvent elem

namespace Declaration

/-- The calls for a declaration, in order. -/
def calls (d : Declaration) : List BuilderCall :=
  match d.handles with
  | some [] => [d.shape.handlerCall]
  | some (t :: ts) => [.annotated (t :: ts), d.shape.handlerCall]
  | none => d.shape.written.toList.map .paramOpaque

/-- The chain of calls as it stands in the code, on a new declaration
`::eventbind::MethodDecl::new("method")`. -/
def chain (d : Declaration) : List Source.Token :=
  libraryFunction "MethodDecl" "new" ++
    [.group .parenthesis [.literal (Text.stringLiteral d.name)]] ++
    d.calls.flatMap (BuilderCall.tokens d.name)

/-- A declaration as it stands in the code of a block: its chain of calls. That of a method
which is no handler names the method before, in `{ let _ = Self::method; .. }`. -/
def emitted (d : Declaration) : List Source.Token :=
  if d.isHandler then d.chain
  else [.group .brace
    ([.ident "let", .ident "_", .punct '=' false, .ident "Self", .punct ':' true,
      .punct ':' false, .ident d.name, .punct ';' false] ++ d.chain)]

theorem newMethod_eq (name : String) :
    newMethod name = libraryFunction "MethodDecl" "new" ++
      [.group .parenthesis [.literal (Text.stringLiteral name)]] := rfl

theorem eventRef_eq (t : Ty) : eventRef t = listedEvent t := by
  rw [eventRef, asTrait_eq]
  simp only [listedEvent, List.append_assoc]
  rfl

theorem annotated_eq (handles : List Ty) (method : String) :
    call "annotated" [] (library ["HandlerAnnotation", "handles"] ++
      paren [.group .bracket (listed (handles.map eventRef))]) =
      (BuilderCall.annotated handles).tokens method := by
  rw [listed, Source.Marked.join_false, List.map_congr_left fun t _ => eventRef_eq t]
  rfl

theorem paramOpaque_eq (written : Ty) (method : String) :
    call "param_opaque" (turbofish written.tokens) [] =
      (BuilderCall.paramOpaque written).tokens method := by
  rw [call_eq, turbofish_eq]
  simp [BuilderCall.tokens]

theorem handlesEvent_eq (elem : Ty) (method : String) :
    call "handles_event" (turbofish (listed [elem.tokens, word "_"])) (callback method true) =
      (BuilderCall.handlesEvent elem).tokens method := by
  rw [call_eq, turbofish_eq, listed_pair]
  simp only [BuilderCall.tokens, List.append_assoc]
  rfl

theorem handlesNone_eq (method : String) :
    call "handles_none" [] (callback method false) = BuilderCall.handlesNone.tokens method := rfl

theorem annotation_eq (handles : List Ty) (method : String) :
    annotation handles =
      if handles.isEmpty then [] else (BuilderCall.annotated handles).tokens method := by
  unfold annotation
  rw [annotated_eq]

theorem handlerCode_eq (name : String) (shape : Shape) (handles : List Ty) :
    handlerCode name shape handles = chain ⟨name, shape, some handles⟩ := by
  cases shape with
  | alone =>
    cases handles <;>
      simp [handlerCode, annotation_eq _ name, handlesNone_eq, newMethod_eq, chain, calls,
        Shape.handlerCall]
  | event lifetime elem =>
    cases handles <;>
      simp [handlerCode, annotation_eq _ name, handlesEvent_eq, newMethod_eq, chain, calls,
        Shape.handlerCall]

theorem plainCode_eq (name : String) (shape : Shape) :
    plainCode name shape = emitted ⟨name, shape, none⟩ := by
  cases shape with
  | alone => rfl
  | event lifetime elem =>
    have hcalls : calls ⟨name, .event lifetime elem, none⟩ =
        [.paramOpaque (.reference lifetime false elem)] := rfl
    rw [emitted, chain, hcalls, List.flatMap_singleton, ← paramOpaque_eq]
    rfl

/-- The code of a declaration is its chain of calls. -/
theorem code_eq_chain (d : Declaration) : d.code = d.emitted := by
  obtain ⟨name, shape, _ | handles⟩ := d
  · exact plainCode_eq name shape
  · exact handlerCode_eq name shape handles

end Declaration

/-! ### Models -/

/-- A call in the chain that builds the model of a type. -/
inductive ModelCall where
  | method (d : Declaration)
  | extending (parent : Parent)

/-- The function in a block that leads from a target to its parent:
`{ fn __eventbind_project(target: &T) -> &Parent { &target.field } __eventbind_project }`. -/
def Emitted.projection (target : Ty) (parent : Parent) : List Source.Token :=
  [.group .brace
    ([.ident "fn", .ident "__eventbind_project",
        .group .parenthesis
          ([.ident "target", .punct ':' false, .punct '&' false] ++ target.tokens),
        .punct '-' true, .punct '>' false, .punct '&' false] ++ parent.type.tokens ++
      [.group .brace [.punct '&' false, .ident "target", .punct '.' false, parent.field.token],
        .ident "__eventbind_project"])]

/-- A call as it stands in the code of a block: `.method(..)` with a declaration, or
`.extends(<Parent as ::eventbind::EventTarget>::type_model(), ..)` with a projection. -/
def ModelCall.tokens (target : Ty) : ModelCall → List Source.Token
  | method d => [.punct '.' false, .ident "method", .group .parenthesis d.emitted]
  | extending parent =>
    [.punct '.' false, .ident "extends",
      .group .parenthesis
        ([.punct '<' false] ++ parent.type.tokens ++ [.ident "as"] ++ libraryItem "EventTarget" ++
          [.punct '>' false, .punct ':' true, .punct ':' false, .ident "type_model",
            .group .parenthesis [], .punct ',' false] ++ Emitted.projection target parent)]

/-- The calls for some declarations and perhaps a parent, in order. -/
def modelCalls (declarations : List Declaration) (parent : Option Parent) : List ModelCall :=
  declarations.map .method ++ parent.toList.map .extending

namespace Emitted

/-- The code of a model, the calls on a new one: `::eventbind::TypeModel::new("T")`. -/
def model (target : Ty) (calls : List ModelCall) : List Source.Token :=
  libraryFunction "TypeModel" "new" ++
    [.group .parenthesis [.literal (Text.stringLiteral (Expansion.targetName target))]] ++
    calls.flatMap (ModelCall.tokens target)

/-- The item that gives a type its model:
`impl ::eventbind::EventTarget for T { fn type_model() -> ::eventbind::TypeModel<Self> { .. } }`. -/
def targetItem (target : Ty) (calls : List ModelCall) : List Source.Token :=
  [.ident "impl"] ++ libraryItem "EventTarget" ++ [.ident "for"] ++ target.tokens ++
    [.group .brace
      ([.ident "fn", .ident "type_model", .group .parenthesis [], .punct '-' true,
          .punct '>' false] ++ libraryItem "TypeModel" ++
        [.punct '<' false, .ident "Self", .punct '>' false, .group .brace (model target calls)])]

end Emitted

namespace Expansion

theorem method_eq (d : Declaration) (target : Ty) :
    call "method" [] d.code = (ModelCall.method d).tokens target := by
  rw [d.code_eq_chain]
  rfl

theorem projection_eq (target : Ty) (parent : Parent) :
    projection target parent = Emitted.projection target parent := by
  simp only [projection, Emitted.projection, List.append_assoc]
  rfl

theorem extension_eq (target : Ty) (parent : Parent) :
    extension target parent = (ModelCall.extending parent).tokens target := by
  rw [extension, projection_eq, listed_pair, asTrait_eq, call_eq]
  simp only [ModelCall.tokens, List.append_assoc]
  rfl

/-- The code of a model is a new model and the chain of calls on it. -/
theorem modelCode_eq (target : Ty) (declarations : List Declaration) (parent : Option Parent) :
    modelCode target declarations parent =
      Emitted.model target (modelCalls declarations parent) := by
  have hextension : extension target = fun parent => (ModelCall.extending parent).tokens target :=
    funext (extension_eq target)
  simp only [modelCode, Emitted.model, modelCalls, List.flatMap_append, List.flatMap_map,
    method_eq _ target, hextension, List.append_assoc]
  rfl

theorem targetCode_eq (target : Ty) (declarations : List Declaration) (parent : Option Parent) :
    targetCode target declarations parent =
      targetItem target (modelCalls declarations parent) := by
  simp only [targetCode, targetItem, modelCode_eq, List.append_assoc]
  rfl

end Expansion

end EventWiring
