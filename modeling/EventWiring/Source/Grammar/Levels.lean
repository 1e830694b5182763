import EventWiring.Source.Grammar.Statements

/-! Closing the circle of the grammar: each level parses with the one below. -/
namespace EventWiring.Source

namespace Grammar

/-- The grammar of a number of levels. -/
def upTo : Nat → Grammar
  | 0 => none
  | n + 1 =>
    let below := upTo n
    { type := below.parseType
      expr := below.parseExpr
      operand := below.parseOperand
      operators := below.parseOperators
      armBody := below.parseEarly
      pattern := below.parsePattern
      statements := below.parseStatements
      item := below.parseItem }

/-- A grammar with enough levels for some tokens: between two levels at least one
token is taken, apart from a few steps at each. -/
def forTokens (ts : List Token) : Grammar := upTo (8 * (Token.sizeAll ts + 2))

end Grammar

end EventWiring.Source
