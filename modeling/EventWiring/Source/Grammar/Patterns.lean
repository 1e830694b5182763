import EventWiring.Source.Grammar.Types
import EventWiring.Source.Number

/-! Copying patterns. -/
namespace EventWiring.Source

open Source.Parser

/-- A field: a name, or a number in its plainest form. -/
inductive Member where
  | named (name : String)
  | numbered (n : Nat)
deriving DecidableEq, Repr

namespace Member

/-- A field as it is written. -/
def token : Member → Token
  | named n => .ident n
  | numbered n => .literal (toString n)

/-- Whether a field has a name. -/
def isNamed : Member → Bool
  | named _ => true
  | numbered _ => false

end Member

/-- A field. -/
def Parser.member : Parser Member := do
  match ← remaining with
  | .literal t :: _ =>
    match fieldNumber? t with
    | some n => skip 1; return .numbered n
    | Option.none => failure
  | _ => return .named (← name)

namespace Grammar

/-- A pattern that is neither a rest nor an open range. -/
def plainly (c : Copier) : Parser PatternPiece := do
  return ⟨← c, .other⟩

/-- A pattern with alternatives, which may begin with a bar. -/
def alternatives (g : Grammar) : Parser PatternPiece := do
  let lead ← textIf "|"
  let first ← g.pattern
  let rest ← copyWhile (fun ts => atText "|" ts && !atText "||" ts && !atText "|=" ts) do
    return (← text "|") ++ (← g.pattern).tokens
  if lead.isEmpty && rest.isEmpty then return first
  else return ⟨lead ++ first.tokens ++ rest, .other⟩

/-- Copies a pattern with alternatives. -/
def copyPattern (g : Grammar) : Copier := do
  return (← g.alternatives).tokens

/-- Whether a range of patterns ends without an upper end. -/
def atRangeEnd (ts : List Token) : Bool :=
  ts.isEmpty || atColon ts || atAny ["|", "=", ",", ";", "if"] ts

/-- An end of a range. -/
def rangeBound (g : Grammar) : Copier := do
  let ts ← remaining
  if atRangeEnd ts then nothing
  else if atLiteral ts then literal
  else if atPath ts then return (← g.anyPath true).tokens
  else if atText "const" ts then seq [text "const", g.blockWithInner]
  else failure

/-- The points of a range. Three points are an old form of the closed one. The
second part tells whether the range is closed. -/
def rangePoints : Parser (List Token × Bool) := do
  if ← sees "..=" then return (← text "..=", true)
  if ← took "..." then return (Token.operator "..=", true)
  return (← text "..", false)

/-- A range after its lower end. -/
def rangeFrom (g : Grammar) (start : List Token) : Parser PatternPiece := do
  let (points, closed) ← rangePoints
  let stop ← g.rangeBound
  if closed && stop.isEmpty then failure
  return ⟨start ++ points ++ stop, if stop.isEmpty then .halfRange else .other⟩

/-- A range without a lower end, or the rest. -/
def rangeTo (g : Grammar) : Parser PatternPiece := do
  let (points, closed) ←
    if ← sees "..=" then pure (← text "..=", true) else pure (← text "..", false)
  let stop ← g.rangeBound
  if !stop.isEmpty then return ⟨points ++ stop, .halfRange⟩
  else if closed then failure
  else return ⟨points, .rest⟩

/-- A field of a record pattern. -/
def fieldPattern (g : Grammar) : Copier := do
  let marks ← seq [textIf "box", textIf "ref", textIf "mut"]
  let m ← if marks.isEmpty then member else do pure (.named (← name))
  let colon ← sees ":"
  if marks.isEmpty && (colon || !m.isNamed) then
    return m.token :: (← seq [text ":", g.copyPattern])
  else return marks ++ [m.token]

/-- The fields of a record pattern, perhaps with the rest at the end. The first
argument bounds how many there are. -/
def fieldPatterns (g : Grammar) : Nat → Copier
  | 0 => failure
  | n + 1 => do
    if ← atEnd then return []
    let attrs ← g.outer
    if ← sees ".." then return attrs ++ (← text "..")
    let field ← g.fieldPattern
    if ← atEnd then return attrs ++ field
    return attrs ++ field ++ (← text ",") ++ (← g.fieldPatterns n)

/-- A path as a pattern, with what may follow one. -/
def pathPattern (g : Grammar) : Parser PatternPiece := do
  let p ← g.anyPath true
  let plain := match p with
    | .path p => p.isPlain
    | _ => false
  let ts ← remaining
  if plain && atText "!" ts && !atText "!=" ts then
    let bang ← text "!"
    let (d, inner) ← anyGroup
    return ⟨p.tokens ++ grouped bang d inner, .other⟩
  if atText "\x7b" ts then
    return ⟨p.tokens ++ (← group .brace (g.fieldPatterns (ts.length + Token.sizeAll ts))), .other⟩
  if atText "(" ts then
    return ⟨p.tokens ++ (← group .parenthesis (copyCommas g.copyPattern)), .other⟩
  if atText ".." ts then g.rangeFrom p.tokens
  else return ⟨p.tokens, .other⟩

/-- A name that takes the value. -/
def bindingPattern (g : Grammar) : Copier :=
  seq [textIf "ref", textIf "mut",
    do if ← sees "self" then text "self" else return [.ident (← name)],
    copyIf (atText "@") (seq [text "@", do return (← g.pattern).tokens])]

/-- A pattern in parentheses, or a tuple. -/
def parenPattern (g : Grammar) : Copier :=
  group .parenthesis (copyCommas g.copyPattern)

/-- A part of a slice pattern, which is no open range. -/
def slicePart (g : Grammar) : Copier := do
  let p ← g.alternatives
  if p.shape = .halfRange then failure else return p.tokens

/-- Whether a path and not a name comes first. -/
def atPathPattern (ts : List Token) : Bool :=
  (atName ts && atAny ["::", "!", "\x7b", "(", ".."] (ts.drop 1)) ||
    (atText "self" ts && atText "::" (ts.drop 1)) ||
    atAny ["::", "<", "Self", "super", "crate"] ts

/-- A pattern without alternatives. -/
def parsePattern (g : Grammar) : Parser PatternPiece := do
  let ts ← remaining
  if atPathPattern ts then g.pathPattern
  else if atText "_" ts then plainly (text "_")
  else if atText "box" ts then plainly (seq [text "box", do return (← g.pattern).tokens])
  else if atText "-" ts || atLiteral ts || atText "const" ts then
    let start ← g.rangeBound
    if ← sees ".." then g.rangeFrom start else return ⟨start, .other⟩
  else if atName ts || atAny ["ref", "mut", "self"] ts then plainly g.bindingPattern
  else if atText "&" ts then
    plainly (seq [text "&", textIf "mut", do return (← g.pattern).tokens])
  else if atText "(" ts then plainly g.parenPattern
  else if atText "[" ts then plainly (group .bracket (copyCommas g.slicePart))
  else if atText ".." ts && !atText "..." ts then g.rangeTo
  else failure

end Grammar

end EventWiring.Source
