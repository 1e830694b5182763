import EventWiring.Bus.System

/-! A binding handle collects the tokens of subscriptions that belong together,
so that one call removes them all. -/
namespace EventWiring

/-- The tokens of one binding, in the order they were made. -/
structure BindingHandle where
  tokens : List Token
deriving DecidableEq, Repr

namespace BindingHandle

/-- A handle without tokens. -/
def empty : BindingHandle := ⟨[]⟩

/-- Adds a token. -/
def push (h : BindingHandle) (t : Token) : BindingHandle := ⟨h.tokens ++ [t]⟩

/-- Whether the handle holds no tokens. A handle that holds some is bound. -/
def isEmpty (h : BindingHandle) : Bool := h.tokens.isEmpty

/-- The name of the handle's state. -/
def state (h : BindingHandle) : String :=
  if h.isEmpty then "Unbound" else "Bound"

/-- The inspection text. -/
def inspect (h : BindingHandle) : String :=
  Text.record "BindingHandle" [("tokens", Text.bracketed (h.tokens.map Token.inspect))]

end BindingHandle

namespace System

variable {C : Type}

/-- Uses tokens in order. -/
def removeAll (s : System C) (tokens : List Token) : System C :=
  tokens.foldl (fun s t => (s.remove t).1) s

/-- Removes every subscription of a handle and empties it. An empty handle is
left alone. -/
def unbind (s : System C) (h : BindingHandle) : System C × BindingHandle :=
  if h.isEmpty then (s, h)
  else ((s.removeAll h.tokens).report [.unbound h.tokens.length], .empty)

end System

end EventWiring
