import EventWiring.Source.Grammar.Levels
import EventWiring.Source.Lexer

/-! Reading types, methods and blocks from tokens. -/
namespace EventWiring.Source

open Source.Parser

/-- Why source text cannot be read. -/
inductive SourceError where
  | unreadable
  /-- The word that a block starts with is missing, perhaps because the text ends. -/
  | missingImpl (ended : Bool)
deriving DecidableEq, Repr

namespace SourceError

/-- What went wrong. -/
def message : SourceError → String
  | unreadable => "unexpected token"
  | missingImpl false => "expected \x60impl\x60"
  | missingImpl true => "unexpected end of input, expected \x60impl\x60"

end SourceError

/-- The tokens of a text. -/
def tokenize (text : String) : Except SourceError (List Token) :=
  match lex? text with
  | some ts => .ok ts
  | none => .error .unreadable

/-- What a parser makes of all of some tokens. -/
def readAll {α : Type} (p : Parser α) (ts : List Token) : Except SourceError α :=
  match (onAll p ts).run [] with
  | some (a, _) => .ok a
  | none => .error .unreadable

/-- Takes a type. -/
def Ty.parser : Parser Ty := do
  (Grammar.forTokens (← remaining)).type true

/-- A method with a body. -/
def Method.ofTokens (ts : List Token) : Except SourceError Method :=
  readAll (Grammar.forTokens ts).method ts

namespace ImplBlock

/-- The attributes and the words before the word that a block starts with. -/
def lead (g : Grammar) : Parser (List Attribute × Bool × Bool) := do
  return (← g.outerAttributes, ← took "default", ← took "unsafe")

/-- A block behind what stands before its first word. -/
def body (g : Grammar) (attrs : List Attribute) (isDefault isUnsafe : Bool) :
    Parser ImplBlock := do
  let _ ← text "impl"
  match ← g.implRest false attrs isDefault isUnsafe with
  | some b => return b
  | none => failure

/-- A block. -/
def ofTokens (ts : List Token) : Except SourceError ImplBlock :=
  let g := Grammar.forTokens ts
  match (lead g).run ts with
  | none => .error .unreadable
  | some ((attrs, isDefault, isUnsafe), rest) =>
    if atText "impl" rest then readAll (body g attrs isDefault isUnsafe) rest
    else .error (.missingImpl rest.isEmpty)

end ImplBlock

end EventWiring.Source
