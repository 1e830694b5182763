import EventWiring.Source.Grammar.Members

/-! Copying the items that stand among statements. -/
namespace EventWiring.Source

open Source.Parser

namespace Grammar

/-- A group whose content begins with attributes and goes on with items. -/
def braced (g : Grammar) (item : Copier) : Copier :=
  group .brace (seq [g.inner, copyWhile (fun ts => !ts.isEmpty) item])

/-! ### Imports -/

/-- A branch of an import. A branch in braces may start at the root if none above
it does. The first argument bounds the nesting. -/
def useTreeFor (root : Bool) : Nat → Copier
  | 0 => failure
  | n + 1 => do
    let ts ← remaining
    if atName ts || atAny ["self", "super", "crate", "try"] ts then
      let w ← word
      let next ← remaining
      if atText "::" next then return .ident w :: (← seq [text "::", useTreeFor false n])
      else if atText "as" next then return .ident w :: (← seq [text "as", nameOrBlank])
      else return [.ident w]
    else if atText "*" ts then text "*"
    else group .brace (copyCommas do
      let leading ← if root then textIf "::" else nothing
      return leading ++ (← useTreeFor (root && leading.isEmpty) n))

/-- An import. -/
def useItem : Copier := do
  let head ← seq [text "use", textIf "::"]
  let tree ← useTreeFor (head.length = 1) (Token.sizeAll (← remaining) + 1)
  return head ++ tree ++ (← text ";")

/-- A declaration of another crate. -/
def externCrate : Copier :=
  seq [text "extern", text "crate",
    do if ← sees "self" then text "self" else return [.ident (← name)],
    copyIf (atText "as") (seq [text "as", nameOrBlank]), text ";"]

/-! ### Data -/

/-- A field with a name. -/
def namedField (g : Grammar) : Copier :=
  seq [g.outer, visibility, nameOrBlank, text ":", g.copyType]

/-- A field without a name. -/
def plainField (g : Grammar) : Copier := seq [g.outer, visibility, g.copyType]

/-- Fields in braces. -/
def namedFields (g : Grammar) : Copier := group .brace (copyCommas g.namedField)

/-- Fields in parentheses. -/
def plainFields (g : Grammar) : Copier := group .parenthesis (copyCommas g.plainField)

/-- A word with a name and generic parameters. -/
def declared (g : Grammar) (kind : String) : Copier := do
  let word ← text kind
  let n ← name
  return word ++ .ident n :: genericTokens (← g.generics)

/-- A record type. -/
def structItem (g : Grammar) : Copier := do
  let head ← g.declared "struct"
  if ← sees "(" then
    return head ++ (← seq [g.plainFields, g.whereClause, text ";"])
  let condition ← g.whereClause
  if ← sees "\x7b" then return head ++ condition ++ (← g.namedFields)
  else return head ++ condition ++ (← text ";")

/-- A case of an enumeration. Its visibility is dropped. -/
def variant (g : Grammar) : Copier := do
  let attrs ← g.outer
  let _ ← visibility
  let n ← name
  let fields ←
    if ← sees "\x7b" then g.namedFields else copyIf (atText "(") g.plainFields
  return attrs ++ .ident n :: fields ++
    (← copyIf (atText "=") (seq [text "=", g.copyExpr]))

/-- An enumeration. -/
def enumItem (g : Grammar) : Copier :=
  seq [g.declared "enum", g.whereClause, group .brace (copyCommas g.variant)]

/-- A union. -/
def unionItem (g : Grammar) : Copier :=
  seq [g.declared "union", g.whereClause, g.namedFields]

/-! ### Traits -/

/-- A function of a trait, with or without a body. -/
def traitFn (g : Grammar) : Copier := do
  let sig ← g.signature false
  if ← sees ";" then return sig.tokens ++ (← text ";")
  else return sig.tokens ++ (← g.blockWithInner)

/-- An item of a trait. With a visibility it is kept as it is written. -/
def traitItem (g : Grammar) : Copier := do
  let before ← remaining
  let attrs ← g.outer
  let vis ← visibility
  let isDefault ← took "default"
  let ts ← remaining
  let written ←
    if atSignature false ts then do pure (some (← g.traitFn))
    else if atText "const" ts then g.constItem? false
    else if atText "type" ts then do
      let item ← g.typeItem false
      pure (some (item.head ++ item.bounds ++ item.definition ++ item.whereClause ++
        Token.operator ";"))
    else if vis.isEmpty && !isDefault && atMacroItem ts then do pure (some (← macroItem))
    else failure
  match written with
  | some item =>
    if vis.isEmpty && !isDefault then return attrs ++ item else taken before
  | Option.none => taken before

/-- A trait after its visibility, or another name for some bounds. -/
def traitRest (g : Grammar) : Copier := do
  let qualifiers ← seq [textIf "unsafe", textIf "auto"]
  let head ← g.declared "trait"
  if qualifiers.isEmpty && (← sees "=") then
    let mark ← text "="
    let bounds ← g.boundsBefore (atAny ["where", ";"])
    return head ++ mark ++ bounds.boundTokens ++ (← seq [g.whereClause, text ";"])
  let bounds ←
    if ← took ":" then g.boundsBefore (atAny ["where", "\x7b"]) else pure .empty
  return qualifiers ++ head ++ colonBounds bounds ++
    (← seq [g.whereClause, g.braced g.traitItem])

/-! ### Foreign items -/

/-- A function that is defined elsewhere. With a body, and if it is called safe, it
is kept as it is written. -/
def foreignFn (g : Grammar) (before lead : List Token) : Copier := do
  let sig ← g.signature true
  if ← sees "\x7b" then
    let _ ← g.blockWithInner
    taken before
  else
    let stop ← text ";"
    if atText "safe" sig.safety then taken before else return lead ++ sig.tokens ++ stop

/-- A value that is defined elsewhere. -/
def foreignStatic (g : Grammar) : Copier :=
  seq [safety true, text "static", textIf "mut", do return [.ident (← name)], text ":",
    g.copyType, copyIf (atText "=") (seq [text "=", g.copyExpr]), text ";"]

/-- An item that is defined elsewhere. -/
def foreignItem (g : Grammar) : Copier := do
  let before ← remaining
  let attrs ← g.outer
  let vis ← visibility
  let ts ← remaining
  if atSignature true ts then g.foreignFn before (attrs ++ vis)
  else if atText "static" ts ||
      (atAny ["unsafe", "safe"] ts && atText "static" (ts.drop 1)) then
    return attrs ++ vis ++ (← g.foreignStatic)
  else if atText "type" ts then
    let item ← g.typeItem true
    if item.bounded || !item.definition.isEmpty then taken before
    else return attrs ++ vis ++ item.head ++ item.whereClause ++ Token.operator ";"
  else if vis.isEmpty && atMacroItem ts then return attrs ++ (← macroItem)
  else failure

/-- A block of items that are defined elsewhere. -/
def foreignBlock (g : Grammar) : Copier :=
  seq [textIf "unsafe", abi, g.braced g.foreignItem]

/-! ### Items -/

/-- A function. Without a body it is kept as it is written. -/
def fnItem (g : Grammar) (before vis : List Token) : Copier := do
  let sig ← g.signature false
  if ← took ";" then taken before
  else return vis ++ sig.tokens ++ (← g.blockWithInner)

/-- A value with a fixed place. Without a type or a value it is kept as it is
written. -/
def staticItem (g : Grammar) : Copier :=
  seq [text "static", textIf "mut", do return [.ident (← name)],
    copyIf (fun ts => !atText "=" ts) (seq [text ":", g.copyType]),
    copyIf (atText "=") (seq [text "=", g.copyExpr]), text ";"]

/-- A module, with its items or without. -/
def modItem (g : Grammar) : Copier := do
  let head ← seq [textIf "unsafe", text "mod",
    do if ← sees "try" then text "try" else return [.ident (← name)]]
  if ← sees ";" then return head ++ (← text ";")
  else return head ++ (← g.braced (seq [g.outer, g.item]))

/-- Another name for a type. With bounds or without a definition it is kept as it is
written. -/
def aliasItem (g : Grammar) (before vis : List Token) : Copier := do
  let item ← g.typeItem true
  if item.bounded || item.definition.isEmpty then taken before
  else return vis ++ item.head ++ item.whereClause ++ item.definition ++ Token.operator ";"

/-- A block of methods among statements. With a visibility it is kept as it is
written. -/
def implStatement (g : Grammar) (before vis : List Token) : Copier := do
  let isDefault ← took "default"
  let isUnsafe ← took "unsafe"
  let _ ← text "impl"
  match ← g.implRest true [] isDefault isUnsafe with
  | some b => if vis.isEmpty then return b.tokens else taken before
  | Option.none => taken before

/-- The definition of a macro by rules, or a call of one as an item. -/
def macroRules : Copier := do
  let (leading, names) ← modPath
  let bang ← text "!"
  let n ← if ← sees "try" then text "try" else copyIf atName do return [.ident (← name)]
  let (d, inner) ← anyGroup
  let call := grouped (Attribute.pathTokens leading names ++ bang ++ n) d inner
  if d = .brace then return call else return call ++ (← text ";")

/-- The definition of a macro. -/
def macroDefinition : Copier :=
  seq [text "macro", do return [.ident (← name)],
    copyIf (atText "(") (group .parenthesis everything), group .brace everything]

/-- Whether a trait comes first. -/
def atTrait (ts : List Token) : Bool :=
  atText "trait" ts || (atText "auto" ts && atText "trait" (ts.drop 1))

/-- Whether a block of items that are defined elsewhere comes first. -/
def atForeignBlock (ts : List Token) : Bool :=
  match abi.run ts with
  | some (_, rest) => atText "extern" ts && atText "\x7b" rest
  | Option.none => false

/-- An item after its attributes. -/
def parseItem (g : Grammar) : Copier := do
  let before ← remaining
  let vis ← visibility
  let ts ← remaining
  let plain := vis.isEmpty
  let next := if atText "unsafe" ts then ts.drop 1 else ts
  if atSignature false ts then g.fnItem before vis
  else if atText "extern" ts && atText "crate" (ts.drop 1) then return vis ++ (← externCrate)
  else if plain && atForeignBlock next then g.foreignBlock
  else if atText "use" ts then return vis ++ (← useItem)
  else if atText "static" ts then return vis ++ (← g.staticItem)
  else if atText "const" ts then
    match ← g.constItem? true with
    | some item => return vis ++ item
    | Option.none => taken before
  else if atText "mod" next then return vis ++ (← g.modItem)
  else if atText "type" ts then g.aliasItem before vis
  else if atText "struct" ts then return vis ++ (← g.structItem)
  else if atText "enum" ts then return vis ++ (← g.enumItem)
  else if atText "union" ts && atName (ts.drop 1) then return vis ++ (← g.unionItem)
  else if atTrait next then return vis ++ (← g.traitRest)
  else if atText "impl" next || (atText "default" ts && !atText "!" (ts.drop 1)) then
    g.implStatement before vis
  else if atText "macro" ts then
    let item ← macroDefinition
    return vis ++ item
  else if plain && atMacroItem ts then macroRules
  else failure

end Grammar

end EventWiring.Source
