import EventWiring.Declaration.Code

/-! What a block with markers stands for: the block without its markers, and the
model of its type or else the problems of its methods. -/
namespace EventWiring

open Source Code

/-- What a block stands for. -/
inductive Expansion where
  /-- Methods are at fault; each has one problem. -/
  | faulty (problems : List Problem) (block : ImplBlock)
  | bound (block : ImplBlock) (declarations : List Declaration) (parent : Option Parent)

namespace Expansion

/-- The problems and the declarations of methods, in source order. -/
def declare : List Method → List Problem × List Declaration
  | [] => ([], [])
  | m :: rest =>
    let (problems, declarations) := declare rest
    match Declaration.ofMethod m with
    | .error p => (p :: problems, declarations)
    | .ok none => (problems, declarations)
    | .ok (some d) => (problems, d :: declarations)

/-- What a block stands for under some options. Only a block of a type of its own, and
not one of a trait or with generic parameters, stands for something. -/
def ofBlock (options : BinderOptions) (block : ImplBlock) : Except Problem Expansion := do
  if block.trait.isSome then throw .traitBlock
  if !block.generics.items.isEmpty then throw .genericBlock
  let (problems, declarations) := declare block.methods
  let stripped := block.mapMethods Method.unmarked
  if problems.isEmpty then return .bound stripped declarations options.parent
  else return .faulty problems stripped

/-- The name of a type: the last of its path, or else what it looks like. -/
def targetName (target : Ty) : String :=
  let last := match target with
    | .path p => p.segments.getLast?
    | .projection _ _ rest => rest.getLast?
    | _ => none
  match last with
  | some s => s.name
  | none => displayAll target.tokens

/-- The code that leads from a target to its parent. -/
def projection (target : Ty) (parent : Parent) : List Token :=
  let name := word "__eventbind_project"
  brace (word "fn" ++ name ++
    paren (word "target" ++ Token.operator ":" ++ Token.operator "&" ++ target.tokens) ++
    Token.operator "->" ++ Token.operator "&" ++ parent.type.tokens ++
    brace (Token.operator "&" ++ word "target" ++ Token.operator "." ++ [parent.field.token]) ++
    name)

/-- The step that takes the parent into the model. -/
def extension (target : Ty) (parent : Parent) : List Token :=
  call "extends" [] (listed
    [asTrait parent.type "EventTarget" ++ absolute ["type_model"] ++ paren [],
      projection target parent])

/-- The code that builds the model. -/
def modelCode (target : Ty) (declarations : List Declaration) (parent : Option Parent) :
    List Token :=
  library ["TypeModel", "new"] ++ paren (string (targetName target)) ++
    declarations.flatMap (fun d => call "method" [] d.code) ++
    parent.toList.flatMap (extension target)

/-- The code that gives a type its model. -/
def targetCode (target : Ty) (declarations : List Declaration) (parent : Option Parent) :
    List Token :=
  word "impl" ++ library ["EventTarget"] ++ word "for" ++ target.tokens ++
    brace (word "fn" ++ word "type_model" ++ paren [] ++ Token.operator "->" ++
      library ["TypeModel"] ++ Token.operator "<" ++ word "Self" ++ Token.operator ">" ++
      brace (modelCode target declarations parent))

/-- The code that a block stands for. -/
def tokens : Expansion → List Token
  | faulty problems block =>
    problems.flatMap (fun p => compileError p.message) ++ block.tokens
  | bound block declarations parent =>
    block.tokens ++ targetCode block.target declarations parent

/-- What a block stands for, options and block given by their tokens. -/
def ofTokens (attr item : List Token) : Except Problem Expansion := do
  let options ← BinderOptions.ofTokens attr
  match ImplBlock.ofTokens item with
  | .ok block => ofBlock options block
  | .error e => throw (.source e)

end Expansion

/-- The code for a marked block. A problem becomes an error for the compiler. -/
def expandBlock (attr item : List Token) : List Token :=
  match Expansion.ofTokens attr item with
  | .ok e => e.tokens
  | .error p => compileError p.message

/-- The code for a marker outside such a block: the item, and an error before it. -/
def expandStrayMarker (item : List Token) : List Token :=
  compileError Problem.strayMarker.message ++ item

end EventWiring
