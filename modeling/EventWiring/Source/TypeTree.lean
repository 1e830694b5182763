import EventWiring.Source.Parser

/-! Types as trees. A type is written again from its tree: the same tokens, with
these regularities. Among generic arguments lifetimes come first, and a path
segment before parenthesised arguments loses its colons. Expressions inside types
are kept as tokens. -/
namespace EventWiring.Source

mutual

/-- A type. -/
inductive Ty where
  | array (elem : Ty) (length : List Token)
  /-- A function pointer: its binder and qualifiers up to the word `fn`, its
  parameters, and the tokens of a variadic one. -/
  | fnPointer (head : List Token) (params : List FnParam) (trailing : Bool)
      (variadic : List Token) (output : Option Ty)
  /-- A type that a macro put in as one. -/
  | group (inner : Ty)
  | implTrait (bounds : List Bound) (trailing : Bool)
  | infer
  | invocation (path : Path) (delimiter : Delimiter) (inner : List Token)
  | never
  | paren (inner : Ty)
  | path (path : Path)
  /-- What a path reaches from a type, perhaps seen as a trait. -/
  | projection (self : Ty) (trait : Option Path) (rest : List Segment)
  | pointer (mutable : Bool) (target : Ty)
  | reference (lifetime : Option String) (mutable : Bool) (target : Ty)
  | slice (elem : Ty)
  | traitObject (marked : Bool) (bounds : List Bound) (trailing : Bool)
  | tuple (elems : List Ty) (trailing : Bool)
  /-- A form that is kept as it is written. -/
  | verbatim (tokens : List Token)

/-- A parameter of a function pointer: what stands before its type, and the type. -/
inductive FnParam where
  | mk (lead : List Token) (type : Ty)

/-- A path. -/
inductive Path where
  | mk (leading : Bool) (segments : List Segment)

/-- A segment of a path. -/
inductive Segment where
  | mk (name : String) (args : PathArgs)

/-- The arguments of a segment. -/
inductive PathArgs where
  | none
  | angle (colons : Bool) (args : List GenericArg) (trailing : Bool)
  | paren (inputs : List Ty) (trailing : Bool) (output : Option Ty)

/-- A generic argument. -/
inductive GenericArg where
  | lifetime (name : String)
  | type (type : Ty)
  | const (value : List Token)
  | assocType (name : String) (args : PathArgs) (type : Ty)
  | assocConst (name : String) (args : PathArgs) (value : List Token)
  | constraint (name : String) (args : PathArgs) (bounds : List Bound) (trailing : Bool)

/-- A bound of a type. -/
inductive Bound where
  | lifetime (name : String)
  /-- A trait, perhaps in parentheses, perhaps relaxed, with its binder. -/
  | trait (paren : Bool) (relaxed : Bool) (binder : List Token) (path : Path)
  /-- A form that is kept as it is written. -/
  | verbatim (tokens : List Token)

end

/-! ### Parts -/

namespace Path

/-- The segments. -/
def segments : Path → List Segment
  | mk _ ss => ss

/-- Whether the path starts with colons. -/
def leading : Path → Bool
  | mk l _ => l

/-- The path of one name. -/
def ofName (name : String) : Path := mk false [.mk name .none]

end Path

namespace Segment

/-- The name of a segment. -/
def name : Segment → String
  | mk n _ => n

/-- The arguments of a segment. -/
def args : Segment → PathArgs
  | mk _ a => a

end Segment

namespace PathArgs

/-- Whether there is no argument. Empty angle brackets are none. -/
def isEmpty : PathArgs → Bool
  | none => true
  | angle _ args _ => args.isEmpty
  | paren _ _ _ => false

/-- Whether there are no brackets at all. -/
def isNone : PathArgs → Bool
  | none => true
  | _ => false

end PathArgs

/-- Whether no segment has arguments. -/
def Path.isPlain (p : Path) : Bool := p.segments.all (·.args.isNone)

/-- Puts arguments behind the last segment. -/
def Path.setLastArgs (p : Path) (args : PathArgs) : Path :=
  match p.segments.getLast? with
  | some s => .mk p.leading (p.segments.dropLast ++ [.mk s.name args])
  | none => p

namespace Ty

/-- The segments at the end of a type that is a path. -/
def lastSegments : Ty → List Segment
  | path p => p.segments
  | projection _ _ rest => rest
  | _ => []

/-- Puts other segments at the end of a path. A type that is no path is what they are
reached from. -/
def withLastSegments (segments : List Segment) : Ty → Ty
  | path p => path (.mk p.leading segments)
  | projection self trait _ => projection self trait segments
  | t => projection t none segments

/-- A type without the groups around it. -/
def ungrouped : Ty → Ty
  | group inner => inner.ungrouped
  | t => t

end Ty

/-! ### Writing -/

/-- Items marked as lifetimes or not, written with commas, lifetimes first. Each
keeps its own comma, and a comma is added where a lifetime that had none now has
something behind it. -/
def lifetimesFirst (items : List (Bool × List Token)) (trailing : Bool) : List Token :=
  let comma := Token.operator ","
  let last := items.length - 1
  let marked := items.zipIdx.map fun (item, i) =>
    (item.1, item.2 ++ if i < last || trailing then comma else [])
  let lifetimes := marked.filter (·.1)
  let others := marked.filter (!·.1)
  let bare := !trailing && (items.getLast?.map (·.1)).getD false
  lifetimes.flatMap (·.2) ++ (if bare && !others.isEmpty then comma else []) ++
    others.flatMap (·.2)

/-- A group with some tokens in front. -/
def grouped (lead : List Token) (d : Delimiter) (inner : List Token) : List Token :=
  lead ++ [.group d inner]

mutual

/-- A type as it is written. -/
def Ty.tokens : Ty → List Token
  | .array elem length =>
    [.group .bracket (elem.tokens ++ Token.operator ";" ++ length)]
  | .fnPointer head params trailing variadic output =>
    grouped head .parenthesis (Marked.join "," trailing (paramTokens params) ++ variadic) ++
      outputTokens output
  | .group inner => [.group .invisible inner.tokens]
  | .implTrait bounds trailing => .ident "impl" :: Marked.join "+" trailing (boundTokens bounds)
  | .infer => [.ident "_"]
  | .invocation path d inner => path.tokens ++ grouped (Token.operator "!") d inner
  | .never => Token.operator "!"
  | .paren inner => [.group .parenthesis inner.tokens]
  | .path path => path.tokens
  | .projection self trait rest =>
    Token.operator "<" ++ self.tokens ++ traitTokens trait ++ Token.operator ">" ++
      Token.operator "::" ++ Marked.join "::" false (segmentTokens rest)
  | .pointer mutable target =>
    Token.operator "*" ++ [.ident (if mutable then "mut" else "const")] ++ target.tokens
  | .reference lifetime mutable target =>
    Token.operator "&" ++ lifetime.toList.map .lifetime ++
      (if mutable then [.ident "mut"] else []) ++ target.tokens
  | .slice elem => [.group .bracket elem.tokens]
  | .traitObject marked bounds trailing =>
    (if marked then [.ident "dyn"] else []) ++ Marked.join "+" trailing (boundTokens bounds)
  | .tuple elems trailing => [.group .parenthesis (Marked.join "," trailing (typeTokens elems))]
  | .verbatim tokens => tokens

/-- Types as they are written, one by one. -/
def typeTokens : List Ty → List (List Token)
  | [] => []
  | t :: rest => t.tokens :: typeTokens rest

/-- The result type of a function, with its arrow. -/
def outputTokens : Option Ty → List Token
  | none => []
  | some t => Token.operator "->" ++ t.tokens

/-- The trait that a projection sees its type as. -/
def traitTokens : Option Path → List Token
  | none => []
  | some p => .ident "as" :: p.tokens

/-- Parameters of a function pointer, one by one. -/
def paramTokens : List FnParam → List (List Token)
  | [] => []
  | .mk lead t :: rest => (lead ++ t.tokens) :: paramTokens rest

/-- A path as it is written. -/
def Path.tokens : Path → List Token
  | .mk leading segments =>
    (if leading then Token.operator "::" else []) ++
      Marked.join "::" false (segmentTokens segments)

/-- Segments as they are written, one by one. -/
def segmentTokens : List Segment → List (List Token)
  | [] => []
  | .mk name args :: rest => (.ident name :: args.tokens) :: segmentTokens rest

/-- The arguments of a segment with their brackets. -/
def PathArgs.tokens : PathArgs → List Token
  | .none => []
  | .angle colons args trailing =>
    (if colons then Token.operator "::" else []) ++ Token.operator "<" ++
      lifetimesFirst (argTokens args) trailing ++ Token.operator ">"
  | .paren inputs trailing output =>
    .group .parenthesis (Marked.join "," trailing (typeTokens inputs)) :: outputTokens output

/-- Generic arguments, one by one, each with whether it is a lifetime. -/
def argTokens : List GenericArg → List (Bool × List Token)
  | [] => []
  | a :: rest => a.entry :: argTokens rest

/-- A generic argument with whether it is a lifetime. -/
def GenericArg.entry : GenericArg → Bool × List Token
  | .lifetime name => (true, [.lifetime name])
  | .type t => (false, t.tokens)
  | .const value => (false, value)
  | .assocType name args t =>
    (false, .ident name :: args.tokens ++ Token.operator "=" ++ t.tokens)
  | .assocConst name args value =>
    (false, .ident name :: args.tokens ++ Token.operator "=" ++ value)
  | .constraint name args bounds trailing =>
    (false, .ident name :: args.tokens ++ Token.operator ":" ++
      Marked.join "+" trailing (boundTokens bounds))

/-- Bounds as they are written, one by one. -/
def boundTokens : List Bound → List (List Token)
  | [] => []
  | b :: rest => b.tokens :: boundTokens rest

/-- A bound as it is written. -/
def Bound.tokens : Bound → List Token
  | .lifetime name => [.lifetime name]
  | .trait paren relaxed binder path =>
    let inner := (if relaxed then Token.operator "?" else []) ++ binder ++ path.tokens
    if paren then [.group .parenthesis inner] else inner
  | .verbatim tokens => tokens

end

/-- Bounds with plus signs between them. -/
def Marked.boundTokens (bounds : Marked Bound) : List Token :=
  join "+" bounds.trailing (Source.boundTokens bounds.items)

end EventWiring.Source
