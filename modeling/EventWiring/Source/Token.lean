/-! The tokens of source text. Brackets always match, so a stream of tokens is a
list of trees. -/
namespace EventWiring.Source

/-- What stands around a group. -/
inductive Delimiter where
  | parenthesis
  | bracket
  | brace
  /-- Nothing. What a macro puts in for one of its variables is kept together so; text never
  has such a group. -/
  | invisible
deriving DecidableEq, Repr

namespace Delimiter

/-- The opening bracket. -/
def opening : Delimiter → String
  | parenthesis => "("
  | bracket => "["
  | brace => "\x7b"
  | invisible => ""

/-- The closing bracket. -/
def closing : Delimiter → String
  | parenthesis => ")"
  | bracket => "]"
  | brace => "\x7d"
  | invisible => ""

end Delimiter

/-- A token: a word, a punctuation mark, a lifetime, a literal, or a group, mostly
in brackets. A mark that is joint has another mark right behind it, and the two may
form one operator. -/
inductive Token where
  | ident (name : String)
  | punct (mark : Char) (joint : Bool)
  | lifetime (name : String)
  | literal (text : String)
  | group (delimiter : Delimiter) (inner : List Token)
deriving Inhabited, Repr

namespace Token

/-- An operator as its marks, all but the last joint. -/
def operatorChars : List Char → List Token
  | [] => []
  | [c] => [.punct c false]
  | c :: d :: rest => .punct c true :: operatorChars (d :: rest)

/-- An operator. -/
def operator (marks : String) : List Token := operatorChars marks.toList

mutual

/-- The number of tokens in a token, itself included. -/
def size : Token → Nat
  | .group _ inner => sizeAll inner + 1
  | _ => 1

/-- The number of tokens in a list. -/
def sizeAll : List Token → Nat
  | [] => 0
  | t :: rest => t.size + sizeAll rest

end

end Token

end EventWiring.Source
