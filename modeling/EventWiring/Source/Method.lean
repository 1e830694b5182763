import EventWiring.Source.Attribute
import EventWiring.Source.TypeTree

/-! Methods. The attributes and the signature of a method are kept as data, since
its role as a handler depends on them; its body is kept as tokens. -/
namespace EventWiring.Source

/-- Generic parameters, each with whether it is a lifetime. -/
abbrev Generics := Marked (Bool × List Token)

/-- Generic parameters in their brackets. Empty brackets are not written. -/
def genericTokens (generics : Generics) : List Token :=
  if generics.items.isEmpty then []
  else
    Token.operator "<" ++ lifetimesFirst generics.items generics.trailing ++ Token.operator ">"

/-- How a method takes its target. -/
structure Receiver where
  attrs : List Attribute
  /-- The reference that it is taken by, with its lifetime. -/
  reference : Option (Option String)
  mutable : Bool
  /-- The type, if it is written out. -/
  type : Option Ty

namespace Receiver

/-- Whether the target is taken by a shared reference. -/
def isShared (r : Receiver) : Bool := r.reference.isSome && !r.mutable

/-- A receiver as it is written. -/
def tokens (r : Receiver) : List Token :=
  Attribute.allTokens r.attrs ++
    (match r.reference with
      | some lifetime => Token.operator "&" ++ lifetime.toList.map .lifetime
      | none => []) ++
    (if r.mutable then [.ident "mut"] else []) ++ [.ident "self"] ++
    (match r.type with
      | some t => Token.operator ":" ++ t.tokens
      | none => [])

end Receiver

/-- A parameter. -/
structure Param where
  attrs : List Attribute
  pattern : List Token
  type : Ty

/-- A parameter as it is written. -/
def Param.tokens (p : Param) : List Token :=
  Attribute.allTokens p.attrs ++ p.pattern ++ Token.operator ":" ++ p.type.tokens

/-- What stands between the parentheses of a signature. -/
structure Inputs where
  receiver : Option Receiver
  params : List Param
  /-- Whether a comma stands behind the last one. -/
  trailing : Bool
  /-- The tokens of a variadic parameter. -/
  variadic : List Token

namespace Inputs

/-- No inputs. -/
def none : Inputs := ⟨Option.none, [], false, []⟩

/-- Inputs as they are written. -/
def tokens (i : Inputs) : List Token :=
  Marked.join "," i.trailing
    (i.receiver.toList.map Receiver.tokens ++ i.params.map Param.tokens) ++ i.variadic

end Inputs

/-- The signature of a function or a method. -/
structure Signature where
  isConst : Bool
  isAsync : Bool
  /-- The word for the safety of a call. -/
  safety : List Token
  abi : List Token
  name : String
  generics : Generics
  inputs : Inputs
  output : Option Ty
  whereClause : List Token

/-- A signature as it is written. -/
def Signature.tokens (s : Signature) : List Token :=
  grouped
    ((if s.isConst then [.ident "const"] else []) ++
      (if s.isAsync then [.ident "async"] else []) ++ s.safety ++ s.abi ++
      [.ident "fn", .ident s.name] ++ genericTokens s.generics)
    .parenthesis s.inputs.tokens ++ outputTokens s.output ++ s.whereClause

/-- A method with a body. The attributes at the beginning of the body come after
those before the method. -/
structure Method where
  attrs : List Attribute
  visibility : List Token
  isDefault : Bool
  signature : Signature
  body : List Token

namespace Method

/-- The name. -/
def name (m : Method) : String := m.signature.name

/-- A method as it is written. -/
def tokens (m : Method) : List Token :=
  grouped
    (Attribute.allTokens (m.attrs.filter (!·.inner)) ++ m.visibility ++
      (if m.isDefault then [.ident "default"] else []) ++ m.signature.tokens)
    .brace (Attribute.allTokens (m.attrs.filter (·.inner)) ++ m.body)

end Method

end EventWiring.Source
