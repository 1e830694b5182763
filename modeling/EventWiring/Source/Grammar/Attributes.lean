import EventWiring.Source.Grammar.Basic

/-! Parsing attributes. -/
namespace EventWiring.Source

open Source.Parser

/-- A path of names and words that name places. It ends with a name, not with
colons. -/
def modPath : Parser (Bool × List String) := do
  let leading ← took "::"
  let first ← place
  let rest ← repeatWhile (atText "::") do
    let _ ← text "::"
    place
  return (leading, first :: rest)
where
  /-- A name, or a word that names a place. -/
  place : Parser String := do
    if ← ahead fun ts => atName ts || atAny ["super", "self", "Self", "crate"] ts then word
    else failure

namespace Grammar

/-- The value of an attribute: a lone literal, or an expression that does not
begin with an attribute. -/
def attributeValue (g : Grammar) : Copier := do
  match ← trial literal with
  | some [] => literal
  | _ =>
    if ← ahead fun ts => atText "#" ts && atText "[" (ts.drop 1) then failure
    else g.copyExpr

/-- The content of an attribute. -/
def attributeBody (g : Grammar) (inner : Bool) : Parser Attribute := do
  let (leading, path) ←
    if ← sees "unsafe" then do
      let w ← word
      pure (false, [w])
    else modPath
  if ← ahead (atAny ["(", "[", "\x7b"]) then
    let (d, ts) ← anyGroup
    return ⟨inner, leading, path, .list d ts⟩
  else if ← took "=" then
    return ⟨inner, leading, path, .value (← g.attributeValue)⟩
  else return ⟨inner, leading, path, .none⟩

/-- The attributes before something. -/
def outerAttributes (g : Grammar) : Parser (List Attribute) :=
  repeatWhile (atText "#") do
    let _ ← text "#"
    inside .bracket (g.attributeBody false)

/-- Whether an inner attribute comes first. -/
def atInner (ts : List Token) : Bool := atText "#" ts && atText "!" (ts.drop 1)

/-- The attributes at the beginning of something. -/
def innerAttributes (g : Grammar) : Parser (List Attribute) :=
  repeatWhile atInner do
    let _ ← text "#"
    let _ ← text "!"
    inside .bracket (g.attributeBody true)

/-- Copies the attributes before something. -/
def outer (g : Grammar) : Copier := do
  return Attribute.allTokens (← g.outerAttributes)

/-- Copies the attributes at the beginning of something. -/
def inner (g : Grammar) : Copier := do
  return Attribute.allTokens (← g.innerAttributes)

/-- A block of statements. -/
def block (g : Grammar) : Copier := group .brace g.statements

/-- A block that may begin with attributes. -/
def blockWithInner (g : Grammar) : Copier := group .brace (seq [g.inner, g.statements])

end Grammar

end EventWiring.Source
