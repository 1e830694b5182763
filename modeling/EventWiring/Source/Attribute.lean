import EventWiring.Source.Token

/-! Attributes. An attribute has a path of names and perhaps a group of tokens or a
value. An inner attribute stands inside what it belongs to. -/
namespace EventWiring.Source

/-- What follows the path of an attribute. -/
inductive AttributeDetail where
  | none
  | list (delimiter : Delimiter) (inner : List Token)
  | value (value : List Token)

/-- An attribute. -/
structure Attribute where
  inner : Bool
  /-- Whether the path starts with colons. -/
  leading : Bool
  path : List String
  detail : AttributeDetail

namespace Attribute

/-- A path of names as it is written. -/
def pathTokens (leading : Bool) (names : List String) : List Token :=
  (if leading then Token.operator "::" else []) ++
    ((names.map fun n => [Token.ident n]).intersperse (Token.operator "::")).flatten

/-- What follows the path, as it is written. -/
def detailTokens : AttributeDetail → List Token
  | .none => []
  | .list d inner => [.group d inner]
  | .value v => Token.operator "=" ++ v

/-- An attribute as it is written. -/
def tokens (a : Attribute) : List Token :=
  Token.operator "#" ++ (if a.inner then Token.operator "!" else []) ++
    [.group .bracket (pathTokens a.leading a.path ++ detailTokens a.detail)]

/-- Attributes as they are written. -/
def allTokens (as : List Attribute) : List Token := as.flatMap tokens

end Attribute

end EventWiring.Source
