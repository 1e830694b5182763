import EventWiring.Source.Attribute
import EventWiring.Source.TypeTree

/-! The parts of the grammar that refer to each other. Types, expressions,
patterns, statements and items are nested in one another without end; each parser
is written with the parsers one level below as a record, and a bound on the
nesting closes the circle. -/
namespace EventWiring.Source

/-- What kind of expression was copied, as far as what may follow depends on it. -/
inductive ExprShape where
  /-- It ends with its block, such as a loop. -/
  | block
  /-- It is a call of a macro; with braces it ends there. -/
  | invocation (braces : Bool)
  | range
  | comparison
  | other
deriving DecidableEq, Repr

/-- A copied expression. -/
structure Piece where
  tokens : List Token
  shape : ExprShape

/-- What kind of pattern was copied. -/
inductive PatternShape where
  /-- Two points that stand for the rest. -/
  | rest
  /-- A range with one end. -/
  | halfRange
  | other
deriving DecidableEq, Repr

/-- A copied pattern. -/
structure PatternPiece where
  tokens : List Token
  shape : PatternShape

/-- The parsers one level down. -/
structure Grammar where
  /-- A type; whether a plus sign may join it to further bounds. -/
  type : Bool → Parser Ty
  /-- An expression; whether a brace behind a path makes a record. -/
  expr : Bool → Parser Piece
  /-- An operand with its signs in front and its trailers behind. -/
  operand : Bool → Parser Piece
  /-- What follows an operand, down to operators of a rank. -/
  operators : Bool → Nat → Piece → Parser Piece
  /-- An expression at the beginning of a statement or of an arm. -/
  armBody : Parser Piece
  /-- A pattern without alternatives. -/
  pattern : Parser PatternPiece
  /-- The statements of a block. -/
  statements : Copier
  /-- An item after its attributes. -/
  item : Copier

namespace Grammar

/-- The grammar that nests no further. -/
def none : Grammar :=
  { type := fun _ => failure
    expr := fun _ => failure
    operand := fun _ => failure
    operators := fun _ _ _ => failure
    armBody := failure
    pattern := failure
    statements := failure
    item := failure }

/-- Copies a type. -/
def copyType (g : Grammar) : Copier := do
  return (← g.type true).tokens

/-- Copies an expression. -/
def copyExpr (g : Grammar) : Copier := do
  return (← g.expr true).tokens

end Grammar

end EventWiring.Source
