import EventWiring.Source.Grammar.Items

/-! Copying statements. Items, calls of macros with braces and expressions that end
with a block need no semicolon. -/
namespace EventWiring.Source

open Source.Parser

namespace Grammar

/-- The name of a macro and its arguments, if a call of one comes first: the path,
and what follows the exclamation mark. -/
def callAhead (ts : List Token) : Option (List Token) :=
  match modPath.run ts with
  | some (_, rest) => if atText "!" rest then some (rest.drop 1) else Option.none
  | Option.none => Option.none

/-- Whether the definition of a macro by rules comes first. -/
def atMacroRules (ts : List Token) : Bool :=
  match callAhead ts with
  | some rest => atName rest || atText "try" rest
  | Option.none => false

/-- Whether a call of a macro with braces comes first that ends there. -/
def atBracedCall (ts : List Token) : Bool :=
  match callAhead ts with
  | some rest =>
    let next := rest.drop 1
    atText "\x7b" rest && !(atPoint next || atText "?" next)
  | Option.none => false

/-- A call of a macro with braces. -/
def bracedCall : Copier := do
  let (leading, names) ← modPath
  let bang ← text "!"
  let (d, inner) ← anyGroup
  return grouped (Attribute.pathTokens leading names ++ bang) d inner ++ (← textIf ";")

/-- Whether an item and not an expression comes first. -/
def atItem (ts : List Token) : Bool :=
  let second := ts.drop 1
  let third := ts.drop 2
  atAny ["pub", "extern", "use", "fn", "mod", "type", "struct", "enum", "trait", "impl",
      "macro"] ts ||
    (atText "crate" ts && !atText "::" second) ||
    (atText "static" ts && (atText "mut" second || atName second)) ||
    (atText "const" ts &&
      !(atAny ["\x7b", "static", "move", "|"] second ||
        (atText "async" second && !atAny ["unsafe", "extern", "fn"] third))) ||
    (atText "unsafe" ts && !atText "\x7b" second) ||
    (atText "async" ts && atAny ["unsafe", "extern", "fn"] second) ||
    (atText "union" ts && atName second) ||
    (atText "auto" ts && atText "trait" second) ||
    (atText "default" ts && atAny ["unsafe", "impl"] second) ||
    atMacroRules ts

/-- Whether tokens end with braces. -/
def endsWithBrace (ts : List Token) : Bool :=
  match ts.getLast? with
  | some (.group .brace _) => true
  | _ => false

/-- A local variable. The alternative to its pattern stands behind a value that does
not end with braces itself. -/
def localVariable (g : Grammar) : Copier := do
  let head ← seq [text "let", do return (← g.pattern).tokens,
    copyIf (atText ":") (seq [text ":", g.copyType])]
  if !(← sees "=") then return head ++ (← text ";")
  let value ← seq [text "=", g.copyExpr]
  let otherwise ←
    if endsWithBrace value then nothing
    else copyIf (atText "else") (seq [text "else", g.block])
  return head ++ value ++ otherwise ++ (← text ";")

/-- Whether an expression of a shape needs a semicolon behind it, unless it comes
last. -/
def needsSemicolon : ExprShape → Bool
  | .block => false
  | .invocation braces => !braces
  | _ => true

/-- A statement, and whether a semicolon is missing if another one follows. -/
def statement (g : Grammar) : Parser (List Token × Bool) := do
  let attrs ← g.outer
  let ts ← remaining
  if !atMacroRules ts && atBracedCall ts then return (attrs ++ (← bracedCall), false)
  else if atText "let" ts then return (attrs ++ (← g.localVariable), false)
  else if atItem ts then return (attrs ++ (← g.item), false)
  else
    let e ← g.armBody
    let stop ← textIf ";"
    return (attrs ++ e.tokens ++ stop, stop.isEmpty && needsSemicolon e.shape)

/-- Statements to the end of a block. The first argument bounds how many there
are. -/
def statementsFor (g : Grammar) : Nat → Copier
  | 0 => failure
  | n + 1 => do
    let marks ← copyWhile (atText ";") (text ";")
    if ← atEnd then return marks
    let (ts, missing) ← g.statement
    if missing && !(← atEnd) then failure
    return marks ++ ts ++ (← g.statementsFor n)

/-- Statements to the end of a block. -/
def parseStatements (g : Grammar) : Copier := do
  g.statementsFor ((← remaining).length + 1)

end Grammar

end EventWiring.Source
