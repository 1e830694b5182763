import EventWiring.Declaration.Expansion
import EventWiring.Scenario.Fault

/-! Questions about declarations in source text. All text is lexed first; the options
come before the item. -/
namespace EventWiring.Scenario

open Source

/-- The canonical text of tokens. -/
def tokensView (ts : List Token) : Json := .string (canonical ts)

/-- The answer that holds code. -/
def codeView (ts : List Token) : Json := .ofEntries [("ok", tokensView ts)]

/-- What a step on declarations gives, or the fault of its problem. -/
def accepted {α : Type} : Except Problem α → Except Fault α
  | .ok v => .ok v
  | .error p => .error (.refused p)

/-- What is read from source, or the fault of its error. -/
def readable {α : Type} : Except SourceError α → Except Fault α
  | .ok v => .ok v
  | .error e => .error (.refused (.source e))

/-- The tokens of a text that must be there. -/
def tokensOf (field : String) (text : Option String) : Except Fault (List Token) := do
  readable (tokenize (← required field text))

/-- The tokens of options and of an item, both of which must be there. -/
def sourceOf (attr item : Option String) : Except Fault (List Token × List Token) := do
  let attr ← required "attr" attr
  let item ← required "item" item
  let attr ← readable (tokenize attr)
  .ok (attr, ← readable (tokenize item))

/-- The options of a handler. -/
def readHandlerOptions (attr : Option String) : Outcome := do
  let options ← accepted (HandlerOptions.ofTokens (← tokensOf "attr" attr))
  .ok (.ofEntries [("handles", .array (options.handles.map fun t => tokensView t.tokens))])

/-- The view of what a method is declared as. -/
def declarationView : Option Declaration → Json
  | none => .ofEntries [("plain", .null)]
  | some d => .ofEntries [(if d.isHandler then "handler" else "plain", tokensView d.code)]

/-- Reads a method. Its problem is part of the answer, not a failure. -/
def readMethod (item : Option String) : Outcome := do
  let m ← readable (Method.ofTokens (← tokensOf "item" item))
  let stripped := m.unmarked
  .ok (.ofEntries [("stripped", tokensView stripped.tokens),
    ("attrs", .ofNat stripped.attrs.length),
    ("result", Outcome.toJson ((accepted (Declaration.ofMethod m)).map declarationView))])

/-- Expands a block; a problem is a failure. -/
def expand (attr item : Option String) : Outcome := do
  let (attr, item) ← sourceOf attr item
  let e ← accepted (Expansion.ofTokens attr item)
  .ok (codeView e.tokens)

/-- Expands a block; a problem is part of the code. -/
def expandBinder (attr item : Option String) : Outcome := do
  let (attr, item) ← sourceOf attr item
  .ok (codeView (expandBlock attr item))

/-- Expands a marker outside a block. -/
def expandHandler (item : Option String) : Outcome := do
  .ok (codeView (expandStrayMarker (← tokensOf "item" item)))

end EventWiring.Scenario
