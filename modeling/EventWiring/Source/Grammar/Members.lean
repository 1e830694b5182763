import EventWiring.Source.Grammar.Functions
import EventWiring.Source.ImplBlock

/-! Parsing blocks of methods and the items in them. An item whose form is allowed
but means nothing is kept as it is written. -/
namespace EventWiring.Source

open Source.Parser

namespace Grammar

/-- A name, or a blank. -/
def nameOrBlank : Copier := do
  if ← sees "_" then text "_" else return [.ident (← name)]

/-- A constant up to its semicolon; none if its form means nothing. A value may be
needed. -/
def constItem? (g : Grammar) (valued : Bool) : Parser (Option (List Token)) := do
  let head ← seq [text "const", nameOrBlank]
  let generics ← g.generics?
  let type ← seq [text ":", g.copyType]
  let value ← copyIf (atText "=") (seq [text "=", g.copyExpr])
  let condition ← g.where?
  let stop ← text ";"
  if (valued && value.isEmpty) || generics.isSome || condition.isSome then return Option.none
  else return some (head ++ type ++ value ++ stop)

/-- The parts of a type's declaration. -/
structure TypeItem where
  /-- The word, the name and the generic parameters. -/
  head : List Token
  /-- Whether there is a colon, and the bounds behind it. -/
  bounded : Bool
  bounds : List Token
  /-- The type behind its equals sign. -/
  definition : List Token
  whereClause : List Token

/-- Bounds up to a stop with a plus sign behind each but the last. -/
def boundsBefore (g : Grammar) (stop : List Token → Bool) : Parser (Marked Bound) :=
  separated stop "+" (g.bound false true)

/-- Bounds behind a colon, none written for no bounds. -/
def colonBounds (bounds : Marked Bound) : List Token :=
  if bounds.items.isEmpty then [] else Token.operator ":" ++ bounds.boundTokens

/-- A type's declaration up to its semicolon. The conditions stand before or behind
the definition. -/
def typeItem (g : Grammar) (before : Bool) : Parser TypeItem := do
  let word ← text "type"
  let n ← name
  let generics ← g.generics
  let bounded ← took ":"
  let bounds ←
    if bounded then g.boundsBefore (atAny ["where", "=", ";"]) else pure .empty
  let early ← if before then g.whereClause else nothing
  let definition ← copyIf (atText "=") (seq [text "=", g.copyType])
  let late ← if before then nothing else g.whereClause
  let _ ← text ";"
  return ⟨word ++ .ident n :: genericTokens generics, bounded, colonBounds bounds, definition,
    early ++ late⟩

/-- A call of a macro as an item. Unless it ends with braces it has a semicolon. -/
def macroItem : Copier := do
  let (leading, names) ← modPath
  let bang ← text "!"
  let (d, inner) ← anyGroup
  let call := grouped (Attribute.pathTokens leading names ++ bang) d inner
  if d = .brace then return call else return call ++ (← text ";")

/-- Whether the path of a call comes first. -/
def atMacroItem (ts : List Token) : Bool :=
  atName ts || atAny ["self", "super", "crate", "::"] ts

/-- An item of a block. -/
def implItem (g : Grammar) : Parser ImplItem := do
  let before ← remaining
  let attrs ← g.outerAttributes
  let vis ← visibility
  let isDefault ←
    if ← ahead fun ts => atText "!" (ts.drop 1) then pure false else took "default"
  let lead := Attribute.allTokens attrs ++ vis ++ if isDefault then [.ident "default"] else []
  let ts ← remaining
  if atSignature false ts then
    let sig ← g.signature false
    if ← took ";" then return .other (← taken before)
    let (inner, body) ← g.methodBody
    return .method ⟨attrs ++ inner, vis, isDefault, sig, body⟩
  else if atText "const" ts then
    match ← g.constItem? true with
    | some item => return .other (lead ++ item)
    | Option.none => return .other (← taken before)
  else if atText "type" ts then
    let item ← g.typeItem false
    if item.bounded || item.definition.isEmpty then return .other (← taken before)
    else return .other (lead ++ item.head ++ item.definition ++ item.whereClause ++
      Token.operator ";")
  else if vis.isEmpty && !isDefault && atMacroItem ts then
    return .other (lead ++ (← macroItem))
  else failure

/-- The items of a block. -/
def implItems (g : Grammar) : Parser (List ImplItem) :=
  repeatWhile (fun ts => !ts.isEmpty) g.implItem

/-- What a block is for: a type, perhaps seen as a trait. A denied type without a
trait is kept as it is written. As a statement, a block may be for something that is
no trait; the block is then kept as it is written, which none stands for. -/
def implSubject (g : Grammar) (inner : Bool) : Parser (Option (Option TraitRef × Ty)) := do
  let before ← remaining
  let negative ← if ← ahead fun ts => atText "\x7b" (ts.drop 1) then pure false else took "!"
  let subject ← g.type true
  if ← took "for" then
    let target ← g.type true
    match subject.ungrouped with
    | .path p => return some (some ⟨negative, p⟩, target)
    | _ => if inner then return Option.none else failure
  else if negative then return some (Option.none, .verbatim (← taken before))
  else return some (Option.none, subject)

/-- A block after its attributes and its word. As a statement it may be declared for
constant contexts; it is then kept as it is written, which none stands for. -/
def implRest (g : Grammar) (inner : Bool) (attrs : List Attribute) (isDefault isUnsafe : Bool) :
    Parser (Option ImplBlock) := do
  let generics ← if ← ahead atGenerics then g.generics else pure .empty
  let constant ← ahead fun ts =>
    inner && (atText "const" ts || (atText "?" ts && atText "const" (ts.drop 1)))
  if constant then
    let _ ← seq [textIf "?", text "const"]
  let subject ← g.implSubject inner
  let whereClause ← g.whereClause
  let (more, items) ← inside .brace do
    let more ← g.innerAttributes
    return (more, ← g.implItems)
  return do
    let (trait, target) ← subject
    if constant then Option.none
    else some ⟨attrs ++ more, isDefault, isUnsafe, generics, trait, target, whereClause, items⟩

end Grammar

end EventWiring.Source
