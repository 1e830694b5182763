import EventWiring.Source.Method

/-! Blocks of methods and other items of a type, perhaps for a trait. -/
namespace EventWiring.Source

/-- An item of a block. A function without a body is no method. -/
inductive ImplItem where
  | method (method : Method)
  | other (tokens : List Token)

namespace ImplItem

/-- An item as it is written. -/
def tokens : ImplItem → List Token
  | method m => m.tokens
  | other ts => ts

/-- The method, if the item is one. -/
def method? : ImplItem → Option Method
  | method m => some m
  | other _ => none

/-- Changes a method and leaves other items as they are. -/
def mapMethod (f : Method → Method) : ImplItem → ImplItem
  | method m => method (f m)
  | other ts => other ts

end ImplItem

/-- The trait of a block, and whether the block denies it. -/
structure TraitRef where
  negative : Bool
  path : Path

/-- A block. The attributes at the beginning of its body come after those before
the block. -/
structure ImplBlock where
  attrs : List Attribute
  isDefault : Bool
  isUnsafe : Bool
  generics : Generics
  trait : Option TraitRef
  target : Ty
  whereClause : List Token
  items : List ImplItem

namespace ImplBlock

/-- The trait of a block as it is written. -/
def traitTokens : Option TraitRef → List Token
  | some t =>
    (if t.negative then Token.operator "!" else []) ++ t.path.tokens ++ [.ident "for"]
  | none => []

/-- A block as it is written. -/
def tokens (b : ImplBlock) : List Token :=
  grouped
    (Attribute.allTokens (b.attrs.filter (!·.inner)) ++
      (if b.isDefault then [.ident "default"] else []) ++
      (if b.isUnsafe then [.ident "unsafe"] else []) ++ [.ident "impl"] ++
      genericTokens b.generics ++ traitTokens b.trait ++ b.target.tokens ++ b.whereClause)
    .brace (Attribute.allTokens (b.attrs.filter (·.inner)) ++ b.items.flatMap ImplItem.tokens)

/-- The methods in source order. -/
def methods (b : ImplBlock) : List Method := b.items.filterMap ImplItem.method?

/-- Changes every method and leaves the rest as it is. -/
def mapMethods (f : Method → Method) (b : ImplBlock) : ImplBlock :=
  { b with items := b.items.map (ImplItem.mapMethod f) }

end ImplBlock

end EventWiring.Source
