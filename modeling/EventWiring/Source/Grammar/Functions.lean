import EventWiring.Source.Grammar.Expressions
import EventWiring.Source.Method

/-! Parsing functions: their generic parameters, receivers, parameters and
signatures. -/
namespace EventWiring.Source

open Source.Parser

namespace Grammar

/-! ### Generics -/

/-- A generic parameter, which may be left without a name. -/
def genericOrBlank (g : Grammar) : Parser (Bool × List Token) :=
  g.genericParam (g.bound false true) <|> do
    let attrs ← g.outer
    return (false, attrs ++ (← text "_"))

/-- Generic parameters in angle brackets, if there are brackets. -/
def generics? (g : Grammar) : Parser (Option Generics) := do
  if !(← took "<") then return Option.none
  let params ← separated (atText ">") "," g.genericOrBlank
  let _ ← text ">"
  return some params

/-- Generic parameters. -/
def generics (g : Grammar) : Parser Generics := do
  return (← g.generics?).getD .empty

/-- Whether a list of conditions or of bounds in one ends. -/
def atConditionEnd (ts : List Token) : Bool :=
  ts.isEmpty || atColon ts || atAny ["\x7b", ",", ";", "="] ts

/-- A condition on a lifetime or on a type. -/
def whereCondition (g : Grammar) : Copier := do
  if ← ahead fun ts => atLifetime ts && atText ":" (ts.drop 1) then
    let l ← lifetime
    let colon ← text ":"
    let bounds ← chained (fun ts => atConditionEnd ts || atText ":" ts) "+" do
      return [Token.lifetime (← lifetime)]
    return .lifetime l :: colon ++ bounds.tokens "+"
  else
    let head ← seq [copyIf (atText "for") g.binder, g.copyType, text ":"]
    let bounds ← chained atConditionEnd "+" (g.bound false true)
    return head ++ bounds.boundTokens

/-- Conditions behind their word, if the word is there. Without conditions the word
is dropped. -/
def where? (g : Grammar) : Parser (Option (List Token)) := do
  if !(← sees "where") then return Option.none
  let word ← text "where"
  if ← ahead atGenerics then failure
  let conditions ← chained atConditionEnd "," g.whereCondition
  if conditions.items.isEmpty then return some []
  else return some (word ++ conditions.tokens ",")

/-- Conditions behind their word. -/
def whereClause (g : Grammar) : Copier := do
  return (← g.where?).getD []

/-! ### Visibility -/

/-- Whether a group restricts the visibility in front of it. -/
def atRestriction : List Token → Bool
  | .group .parenthesis [.ident name] :: _ => name = "crate" || name = "self" || name = "super"
  | .group .parenthesis (.ident name :: _) :: _ => name = "in"
  | _ => false

/-- The path of a module behind its word. -/
def restrictedPath : Copier := do
  let word ← text "in"
  let (leading, names) ← modPath
  return word ++ Attribute.pathTokens leading names

/-- The visibility of an item. -/
def visibility : Copier := do
  if !(← sees "pub") then return []
  let word ← text "pub"
  if !(← ahead atRestriction) then return word
  return word ++ (← group .parenthesis do
    if ← sees "in" then restrictedPath else everything)

/-! ### Signatures -/

/-- How a method takes its target. Only a receiver that is no reference has a
type. -/
def receiver (g : Grammar) (attrs : List Attribute) : Parser Receiver := do
  let reference ←
    if ← took "&" then
      let l ← if ← ahead atLifetime then do pure (some (← lifetime)) else pure Option.none
      pure (some l)
    else pure Option.none
  let mutable ← took "mut"
  let _ ← text "self"
  let typed ← if reference.isSome then pure false else took ":"
  let type ← if typed then do pure (some (← g.type true)) else pure Option.none
  return ⟨attrs, reference, mutable, type⟩

/-- One of the things between the parentheses of a signature. -/
inductive Input where
  | receiver (receiver : Receiver)
  | param (param : Param)
  | variadic (tokens : List Token)

/-- The points of a variadic parameter with the comma behind it. -/
def variadicTail : Copier :=
  seq [text "...", copyIf (fun ts => !ts.isEmpty) (text ",")]

/-- A parameter. An old form has a type without a pattern. -/
def typedInput (g : Grammar) (attrs : List Attribute) : Parser Input := do
  if ← ahead fun ts => atName ts && atText "<" (ts.drop 1) then
    return .param ⟨attrs, [.ident "_"], ← g.type true⟩
  let pattern ← g.pattern
  let colon ← text ":"
  if ← sees "..." then
    return .variadic (Attribute.allTokens attrs ++ pattern.tokens ++ colon ++ (← variadicTail))
  else return .param ⟨attrs, pattern.tokens, ← g.type true⟩

/-- One of the things between the parentheses of a signature. -/
def input (g : Grammar) : Parser Input := do
  let attrs ← g.outerAttributes
  if ← sees "..." then return .variadic (Attribute.allTokens attrs ++ (← variadicTail))
  (Input.receiver <$> g.receiver attrs) <|> g.typedInput attrs

/-- The comma behind an input, and the inputs behind the comma. -/
def behindComma (inputs : Parser Inputs) : Parser Inputs := do
  if ← atEnd then return .none
  let _ ← text ","
  let rest ← inputs
  return { rest with trailing := rest.params.isEmpty || rest.trailing }

/-- What stands between the parentheses of a signature. Only the first may be the
receiver. The first argument bounds the number. -/
def inputsFor (g : Grammar) : Nat → Bool → Parser Inputs
  | 0, _ => failure
  | n + 1, first => do
    if ← atEnd then return .none
    match ← g.input with
    | .variadic ts => return { Inputs.none with variadic := ts }
    | .receiver r =>
      if !first then failure
      let rest ← behindComma (g.inputsFor n false)
      return { rest with receiver := some r }
    | .param p =>
      let rest ← behindComma (g.inputsFor n false)
      return { rest with params := p :: rest.params }

/-- What stands between the parentheses of a signature. -/
def inputs (g : Grammar) : Parser Inputs :=
  inside .parenthesis do g.inputsFor ((← remaining).length + 1) true

/-- The word for the safety of a call. Only where it can be in doubt may a function
be called safe. -/
def safety (doubt : Bool) : Copier := do
  if doubt && (← sees "safe") then text "safe" else textIf "unsafe"

/-- Whether a signature comes first. -/
def atSignature (doubt : Bool) (ts : List Token) : Bool :=
  match (seq [textIf "const", textIf "async", safety doubt, abi]).run ts with
  | some (_, rest) => atText "fn" rest
  | Option.none => false

/-- A signature. -/
def signature (g : Grammar) (doubt : Bool) : Parser Signature := do
  let isConst ← took "const"
  let isAsync ← took "async"
  let safety ← safety doubt
  let abi ← abi
  let _ ← text "fn"
  let name ← name
  let generics ← g.generics
  let inputs ← g.inputs
  let output ← g.output true
  let whereClause ← g.whereClause
  return ⟨isConst, isAsync, safety, abi, name, generics, inputs, output, whereClause⟩

/-- The body of a method: the attributes at its beginning, and its statements. -/
def methodBody (g : Grammar) : Parser (List Attribute × List Token) :=
  inside .brace do
    let attrs ← g.innerAttributes
    return (attrs, ← g.statements)

/-- A method with a body. -/
def method (g : Grammar) : Parser Method := do
  let outer ← g.outerAttributes
  let vis ← visibility
  let isDefault ← took "default"
  let sig ← g.signature false
  let (inner, body) ← g.methodBody
  return ⟨outer ++ inner, vis, isDefault, sig, body⟩

end Grammar

end EventWiring.Source
