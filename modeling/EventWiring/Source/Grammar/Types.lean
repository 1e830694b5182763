import EventWiring.Source.Grammar.Attributes

/-! Parsing types, paths and bounds. -/
namespace EventWiring.Source

open Source.Parser

/-- Whether colons and then a parenthesis come first. -/
def atColonsParen (ts : List Token) : Bool :=
  atText "::" ts && atText "(" (ts.drop 2)

namespace Grammar

/-! ### Paths -/

/-- The result type of a function, if there is an arrow. -/
def output (g : Grammar) (plus : Bool) : Parser (Option Ty) := do
  if ← took "->" then return some (← g.type plus) else return Option.none

/-- Types in parentheses with a result type. -/
def parenArgs (g : Grammar) : Parser PathArgs := do
  let inputs ← inside .parenthesis (commas (g.type true))
  return .paren inputs.items inputs.trailing (← g.output false)

/-- A constant argument: a literal, a name or a block. -/
def constArg (g : Grammar) : Copier := do
  let ts ← remaining
  if atLiteral ts then literal
  else if atName ts then return [.ident (← name)]
  else if atText "\x7b" ts then g.blockWithInner
  else failure

/-! ### Bounds -/

/-- The lifetimes of a precise capture, and the types. -/
def capture : Copier := do
  let head ← seq [text "use", text "<"]
  let params ← separated (atText ">") "," do
    let ts ← remaining
    if atLifetime ts then return (true, [Token.lifetime (← lifetime)])
    else if atName ts || atText "Self" ts then return (false, [Token.ident (← word)])
    else failure
  return head ++ lifetimesFirst params.items params.trailing ++ (← text ">")

/-- Whether generic arguments in angle brackets come first. In expressions they
need colons in front. -/
def atAngleArgs (inExpr : Bool) (ts : List Token) : Bool :=
  (!inExpr && atText "<" ts && !atText "<=" ts && !atText "<<=" ts) ||
    (atText "::" ts && atText "<" (ts.drop 2))

/-- A generic argument, with bounds by a given parser. -/
def genericArg (g : Grammar) (bound : Parser Bound) : Parser GenericArg := do
  let ts ← remaining
  if atLifetime ts && !atText "+" (ts.drop 1) then return .lifetime (← lifetime)
  else if atLiteral ts || atText "\x7b" ts then return .const (← g.constArg)
  else
    let t ← g.type true
    match t with
    | .path (.mk false [.mk _ (.paren _ _ _)]) => return .type t
    | .path (.mk false [.mk name args]) =>
      if ← took "=" then
        if ← ahead fun ts => atLiteral ts || atText "\x7b" ts then
          return .assocConst name args (← g.constArg)
        else return .assocType name args (← g.type true)
      else if ← took ":" then
        let bounds ← chained (atAny [",", ">"]) "+" bound
        return .constraint name args bounds.items bounds.trailing
      else return .type t
    | _ => return .type t

/-- Generic arguments in angle brackets. -/
def angleArgs (g : Grammar) (bound : Parser Bound) : Parser PathArgs := do
  let colons ← took "::"
  let _ ← text "<"
  let args ← separated (atText ">") "," (g.genericArg bound)
  let _ ← text ">"
  return .angle colons args.items args.trailing

/-- A segment of a path. -/
def segment (g : Grammar) (bound : Parser Bound) (inExpr : Bool) : Parser Segment := do
  if ← ahead (atAny ["super", "self", "crate", "try"]) then return .mk (← word) .none
  let n ← if ← sees "Self" then word else name
  if ← ahead (atAngleArgs inExpr) then return .mk n (← g.angleArgs bound)
  else return .mk n .none

/-- Further segments of a path, each behind colons. -/
def moreSegments (g : Grammar) (bound : Parser Bound) (inExpr : Bool) :
    Parser (List Segment) :=
  repeatWhile (fun ts => atText "::" ts && !atColonsParen ts) do
    let _ ← text "::"
    g.segment bound inExpr

/-- A path. -/
def pathWith (g : Grammar) (bound : Parser Bound) (inExpr : Bool) : Parser Path := do
  let leading ← took "::"
  let first ← g.segment bound inExpr
  return .mk leading (first :: (← g.moreSegments bound inExpr))

/-- The last arguments of a path. -/
def lastArgs (segments : List Segment) : PathArgs :=
  (segments.getLast?.map Segment.args).getD .none

/-- A trait as a bound, or the fact that it is only a trait in constant contexts.
`inner` parses the bounds within. -/
def traitBound (g : Grammar) (inner : Parser Bound) (binder : Copier) (consts paren : Bool) :
    Parser (Option Bound) := do
  let first ← copyIf (atText "for") binder
  let conditional ←
    if ← sees "[" then do
      let _ ← inside .bracket (text "const")
      pure true
    else took "const"
  if conditional && !consts then failure
  let relaxed ← took "?"
  let second ← if first.isEmpty && relaxed then copyIf (atText "for") binder else nothing
  let path ← g.pathWith inner false
  let called ← ahead fun ts => atText "(" ts || atColonsParen ts
  let path ←
    if called && (lastArgs path.segments).isEmpty then do
      let _ ← took "::"
      pure (path.setLastArgs (← g.parenArgs))
    else pure path
  if conditional then return Option.none
  else return some (.trait paren relaxed (first ++ second) path)

/-- A bound. -/
def boundWith (g : Grammar) (inner : Parser Bound) (binder : Copier) (captures consts : Bool) :
    Parser Bound := do
  let ts ← remaining
  if atLifetime ts then return .lifetime (← lifetime)
  if atText "use" ts then
    let written ← capture
    if captures then return .verbatim written else failure
  let bound ←
    if atText "(" ts then inside .parenthesis (g.traitBound inner binder consts true)
    else g.traitBound inner binder consts false
  match bound with
  | some b => return b
  | Option.none => return .verbatim (← taken ts)

/-- A bound of a generic parameter of a binder; it nests binders no further than
the types in it. -/
def boundsUntil (stop : List Token → Bool) (bound : Parser Bound) : Copier := do
  let bounds ← chained stop "+" bound
  if bounds.items.isEmpty then return []
  else return Token.operator ":" ++ bounds.boundTokens

/-- A lifetime parameter. A colon without bounds is dropped. -/
def lifetimeParam : Copier := do
  let n ← lifetime
  if ← took ":" then
    let bounds ← chained (fun ts => ts.isEmpty || atAny [",", ">"] ts) "+" do
      return [Token.lifetime (← lifetime)]
    let tail := if bounds.items.isEmpty then []
      else Token.operator ":" ++ bounds.tokens "+"
    return .lifetime n :: tail
  else return [.lifetime n]

/-- A type parameter. A colon without bounds is dropped. -/
def typeParam (g : Grammar) (bound : Parser Bound) : Copier := do
  let n ← name
  let bounds ←
    if ← took ":" then boundsUntil (fun ts => ts.isEmpty || atAny [",", ">", "="] ts) bound
    else nothing
  let fallback ← copyIf (atText "=") (seq [text "=", g.copyType])
  return .ident n :: bounds ++ fallback

/-- A constant parameter. -/
def constParam (g : Grammar) : Copier :=
  seq [text "const", return [.ident (← name)], text ":", g.copyType,
    copyIf (atText "=") (seq [text "=", g.constArg])]

/-- A generic parameter, with whether it is a lifetime. -/
def genericParam (g : Grammar) (bound : Parser Bound) : Parser (Bool × List Token) := do
  let attrs ← g.outer
  let ts ← remaining
  if atLifetime ts then return (true, attrs ++ (← lifetimeParam))
  else if atName ts then return (false, attrs ++ (← g.typeParam bound))
  else if atText "const" ts then return (false, attrs ++ (← g.constParam))
  else failure

/-- The lifetimes that a type or a bound is bound by. -/
def binderWith (g : Grammar) (bound : Parser Bound) : Copier := do
  let head ← seq [text "for", text "<"]
  let params ← separated (atText ">") "," (g.genericParam bound)
  let written : Marked (List Token) := ⟨params.items.map (·.2), params.trailing⟩
  return head ++ written.tokens "," ++ (← text ">")

/-- Bounds nest in each other through paths and binders. The first argument bounds
how deep. -/
def boundFor (g : Grammar) : Nat → Bool → Bool → Parser Bound
  | 0, _, _ => failure
  | n + 1, captures, consts =>
    let inner := g.boundFor n false true
    g.boundWith inner (g.binderWith inner) captures consts

/-- A bound; whether captures and constant contexts are allowed. -/
def bound (g : Grammar) (captures consts : Bool) : Parser Bound := do
  g.boundFor (Token.sizeAll (← remaining) + 1) captures consts

/-- A binder. -/
def binder (g : Grammar) : Copier := g.binderWith (g.bound false true)

/-- A path; whether it stands in an expression. -/
def path (g : Grammar) (inExpr : Bool) : Parser Path :=
  g.pathWith (g.bound false true) inExpr

/-- A path, or what one reaches from a type. -/
def anyPath (g : Grammar) (inExpr : Bool) : Parser Ty := do
  if ← took "<" then
    let self ← g.type true
    let trait ← if ← took "as" then do pure (some (← g.path false)) else pure Option.none
    let _ ← text ">"
    let rest ← repeatWhile (atText "::") do
      let _ ← text "::"
      g.segment (g.bound false true) inExpr
    if rest.isEmpty then failure
    return .projection self trait rest
  else return .path (← g.path inExpr)

/-- Whether bounds go on behind a plus sign. -/
def atBound (consts : Bool) (ts : List Token) : Bool :=
  atWord ts || atText "::" ts || atText "?" ts || atLifetime ts || atText "(" ts ||
    (consts && (atText "[" ts || atText "const" ts))

/-- Bounds with plus signs, if those are allowed. -/
def bounds (g : Grammar) (plus captures consts : Bool) : Parser (Marked Bound) := do
  let first ← g.bound captures consts
  if !plus || !(← sees "+") then return ⟨[first], false⟩
  let _ ← text "+"
  if !(← ahead (atBound consts)) then return ⟨[first], true⟩
  let rest ← chained (fun ts => !atBound consts ts) "+" (g.bound captures consts)
  return ⟨first :: rest.items, rest.trailing⟩

/-- Whether a bound names a trait. -/
def isTrait : Bound → Bool
  | .trait _ _ _ _ => true
  | _ => false

/-- The bounds of a trait object, one of which is a trait. -/
def objectBounds (g : Grammar) (plus : Bool) : Parser (Marked Bound) := do
  let bs ← g.bounds plus false false
  if bs.items.any isTrait then return bs else failure

/-! ### Types -/

/-- Segments of a type's path with the parenthesised types behind them. The first
argument bounds how many there are. -/
def callSegments (g : Grammar) : Nat → List Segment → Parser (List Segment)
  | 0, _ => failure
  | n + 1, segments => do
    let called ← ahead fun ts => atText "(" ts || atColonsParen ts
    if !called || !(lastArgs segments).isEmpty then return segments
    let _ ← took "::"
    let args ← g.parenArgs
    let segments := (Path.mk false segments |>.setLastArgs args).segments
    let goesOn := match args with
      | .paren _ _ Option.none => true
      | .paren _ _ (some (.paren _)) => true
      | _ => false
    if goesOn then
      let more ← g.moreSegments (g.bound false true) false
      g.callSegments n (segments ++ more)
    else return segments

/-- A path as a type. -/
def typePath (g : Grammar) : Parser Ty := do
  let rounds := (← remaining).length + 1
  match ← g.anyPath false with
  | .path p => return .path (.mk p.leading (← g.callSegments rounds p.segments))
  | .projection self trait rest =>
    return .projection self trait (← g.callSegments rounds rest)
  | t => return t

/-- Whether a group without brackets comes first. -/
def atGroup : List Token → Bool
  | .group .invisible _ :: _ => true
  | _ => false

/-- A type that a macro put in as one. If a path goes on behind it, the two are one
path, and so if it is a path and has its generic arguments there; whether those may
stand without colons. -/
def groupType (g : Grammar) (generic : Bool) : Parser Ty := do
  let t ← inside .invisible (g.type true)
  let bound := g.bound false true
  if ← ahead fun ts => atText "::" ts && atWord (ts.drop 2) then
    return t.withLastSegments (t.lastSegments ++ (← g.moreSegments bound false))
  let takesArgs := t.lastSegments.getLast?.any (·.args.isNone)
  if takesArgs && (← ahead fun ts =>
      (generic && atText "<" ts) || (atText "::" ts && atText "<" (ts.drop 2))) then
    let p := (Path.mk false t.lastSegments).setLastArgs (← g.angleArgs bound)
    return t.withLastSegments (p.segments ++ (← g.moreSegments bound false))
  return .group t

/-- A path, a call of a macro, or a trait object that starts with a path. -/
def pathType (g : Grammar) (plus : Bool) (lead : List Token) : Parser Ty := do
  match ← g.typePath with
  | .path p =>
    if (← ahead fun ts => atText "!" ts && !atText "!=" ts) && p.isPlain then
      let _ ← text "!"
      let (d, inner) ← anyGroup
      return .invocation p d inner
    let more ← sees "+"
    let first : Bound := .trait false false lead p
    if plus && more then
      let _ ← text "+"
      let rest ← chained (fun ts => !atBound false ts) "+" (g.bound false false)
      return .traitObject false (first :: rest.items) (rest.items.isEmpty || rest.trailing)
    else if lead.isEmpty then return .path p
    else return .traitObject false [first] false
  | t => return t

/-- Bounds behind a bound in parentheses; each plus sign has one behind it. -/
def bracketedObject (g : Grammar) (first : Bound) : Parser Ty := do
  let rest ← repeatWhile (atText "+") do
    let _ ← text "+"
    g.bound false false
  return .traitObject false (first :: rest) false

/-- What a parenthesis holds. -/
inductive Parenthesised where
  | type (type : Ty)
  /-- A relaxed trait, which bounds may follow. -/
  | relaxed (bound : Bound)
  /-- A type, which bounds may follow if it is a trait. -/
  | one (type : Ty)

/-- The content of a parenthesis. -/
def parenContent (g : Grammar) : Parser Parenthesised := do
  let ts ← remaining
  if ts.isEmpty then return .type (.tuple [] false)
  if atLifetime ts then
    let bs ← g.objectBounds true
    return .type (.paren (.traitObject false bs.items bs.trailing))
  if atText "?" ts then
    let inner := g.bound false true
    match ← g.traitBound inner (g.binderWith inner) false true with
    | some b => return .relaxed b
    | Option.none => failure
  let first ← g.type true
  if ← took "," then
    let rest ← commas (g.type true)
    return .type (.tuple (first :: rest.items) (rest.items.isEmpty || rest.trailing))
  else return .one first

/-- A type in parentheses, a tuple, or a trait object that starts with a trait in
parentheses. -/
def parenType (g : Grammar) (plus : Bool) : Parser Ty := do
  match ← inside .parenthesis g.parenContent with
  | .type t => return t
  | .relaxed b => g.bracketedObject b
  | .one t =>
    if !plus || !(← sees "+") then return .paren t
    match t with
    | .path p => g.bracketedObject (.trait true false [] p)
    | .traitObject false [.trait _ relaxed binder p] false =>
      g.bracketedObject (.trait true relaxed binder p)
    | .traitObject false [b] false => g.bracketedObject b
    | _ => return .paren t

/-- The language of a function, if it is given. -/
def abi : Copier :=
  copyIf (atText "extern") (seq [text "extern",
    copyIf (fun ts => match ts with
      | .literal t :: _ => isString t
      | _ => false) stringLiteral])

/-- The dots of a variadic parameter with what stands before them. -/
def variadicParam : Copier :=
  seq [copyIf atWord (seq [return [.ident (← word)], text ":"]), text "...", textIf ","]

/-- Whether a variadic parameter comes first. -/
def atVariadic (ts : List Token) : Bool :=
  atText "..." ts ||
    ((atName ts || atText "_" ts) && atText ":" (ts.drop 1) && atText "..." (ts.drop 2))

/-- A parameter of a function pointer. The first may be a receiver that can change,
which is kept as it is written. -/
def pointerParam (g : Grammar) (first : Bool) : Parser FnParam := do
  let attrs ← g.outer
  let ts ← remaining
  let changing := first && atText "mut" ts && atText "self" (ts.drop 1)
  if changing then
    let _ ← text "mut"
  let now ← remaining
  let self := first && atText "self" now
  let labelled := (atName now || atText "_" now || self) && atColon (now.drop 1)
  if changing && !labelled then
    let _ ← text "self"
    return .mk attrs (.verbatim (← taken ts))
  let label ← if labelled then seq [return [.ident (← word)], text ":"] else nothing
  let t ← g.type true
  if changing then return .mk attrs (.verbatim (← taken ts))
  else return .mk (attrs ++ label) t

/-- The parameters of a function pointer, and the tokens of a variadic one. -/
def pointerParams (g : Grammar) : Nat → Bool → Parser (Marked FnParam × List Token)
  | 0, _ => failure
  | n + 1, first => do
    if ← atEnd then return (.empty, [])
    match ← trial g.outer with
    | some rest =>
      if atVariadic rest then
        let attrs ← g.outer
        return (.empty, attrs ++ (← variadicParam))
      let p ← g.pointerParam first
      if ← atEnd then return (⟨[p], false⟩, [])
      let _ ← text ","
      let (more, variadic) ← g.pointerParams n false
      return (⟨p :: more.items, more.items.isEmpty || more.trailing⟩, variadic)
    | Option.none => failure

/-- A function pointer after its binder. -/
def fnPointer (g : Grammar) (lead : List Token) : Parser Ty := do
  let head ← seq [textIf "unsafe", abi, text "fn"]
  let rounds := Token.sizeAll (← remaining) + 1
  let (params, variadic) ← inside .parenthesis (g.pointerParams rounds true)
  return .fnPointer (lead ++ head) params.items params.trailing variadic (← g.output false)

/-- A slice or an array. -/
def bracketType (g : Grammar) : Parser Ty :=
  inside .bracket do
    let elem ← g.type true
    if ← took ";" then return .array elem (← g.copyExpr) else return .slice elem

/-- A pointer. -/
def pointerType (g : Grammar) : Parser Ty := do
  let _ ← text "*"
  if ← took "const" then return .pointer false (← g.type false)
  let _ ← text "mut"
  return .pointer true (← g.type false)

/-- A reference. -/
def referenceType (g : Grammar) : Parser Ty := do
  let _ ← text "&"
  let l ← if ← ahead atLifetime then do pure (some (← lifetime)) else pure Option.none
  let mutable ← took "mut"
  return .reference l mutable (← g.type false)

/-- A trait object with its word. With a star behind it, the type is kept as it is
written. -/
def dynType (g : Grammar) (plus : Bool) : Parser Ty := do
  let ts ← remaining
  let _ ← text "dyn"
  let star ← took "*"
  let bs ← g.objectBounds plus
  if star then return .verbatim (← taken ts)
  else return .traitObject true bs.items bs.trailing

/-- Some type with given bounds, one of which is a trait. -/
def implType (g : Grammar) (plus : Bool) : Parser Ty := do
  let _ ← text "impl"
  let bs ← g.bounds plus true true
  let named (b : Bound) : Bool := match b with
    | .trait _ _ _ _ => true
    | .lifetime _ => false
    | .verbatim ts => !atText "use" ts
  if bs.items.any named then return .implTrait bs.items bs.trailing else failure

/-- Whether a path comes first. -/
def atPath (ts : List Token) : Bool :=
  atName ts || atAny ["super", "self", "Self", "crate", "::", "<"] ts

/-- A type. -/
def parseType (g : Grammar) (plus : Bool) : Parser Ty := do
  if ← ahead atGroup then return ← g.groupType true
  let lead ← copyIf (atText "for") g.binder
  let ts ← remaining
  if !lead.isEmpty &&
      !(atName ts || atAny ["fn", "unsafe", "extern", "super", "self", "Self", "crate"] ts) then
    failure
  if atText "(" ts then g.parenType plus
  else if atAny ["fn", "unsafe", "extern"] ts then g.fnPointer lead
  else if atPath ts then g.pathType plus lead
  else if atText "dyn" ts then g.dynType plus
  else if atText "[" ts then g.bracketType
  else if atText "*" ts then g.pointerType
  else if atText "&" ts then g.referenceType
  else if atText "!" ts && !atText "=" ts then
    let _ ← text "!"
    return .never
  else if atText "impl" ts then g.implType plus
  else if atText "_" ts then
    let _ ← text "_"
    return .infer
  else if atLifetime ts then
    let bs ← g.objectBounds true
    return .traitObject false bs.items bs.trailing
  else failure

end Grammar

end EventWiring.Source
