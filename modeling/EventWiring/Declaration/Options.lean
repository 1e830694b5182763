import EventWiring.Declaration.Problem

/-! The options of markers. An option is a key, an equals sign and a value; a comma
stands behind each but perhaps the last. The first problem in reading order is the
one that is reported. -/
namespace EventWiring

open Source Source.Parser

/-- A step of reading options: it takes tokens, or finds a problem. -/
abbrev OptionReader := StateT (List Token) (Except Problem)

namespace OptionReader

/-- Takes what a parser takes. -/
def parsed {α : Type} (p : Parser α) : OptionReader α := fun ts =>
  match p.run ts with
  | some r => .ok r
  | none => .error (.source .unreadable)

/-- What stands behind a key: the equals sign, a value and the comma, if more
follows. -/
def value {α : Type} (p : Parser α) : OptionReader α := parsed do
  let _ ← text "="
  let a ← p
  if !(← atEnd) then
    let _ ← text ","
  return a

/-- Reads options one by one to the end, in a state of what was found before. The
first number bounds how many there are. -/
def readFor {σ : Type} (option : σ → OptionReader σ) : Nat → σ → OptionReader σ
  | 0, found => return found
  | n + 1, found => do
    if (← get).isEmpty then return found
    else readFor option n (← option found)

/-- What options to the end of the tokens find. -/
def read {σ : Type} (option : σ → OptionReader σ) (start : σ) (ts : List Token) :
    Except Problem σ :=
  ((readFor option ts.length start).run ts).map (·.1)

end OptionReader

open OptionReader

/-! ### Handlers -/

/-- The options of a handler: the events that it lists. -/
structure HandlerOptions where
  handles : List Ty

namespace HandlerOptions

/-- Types with commas in brackets. -/
def typeList : Parser (List Ty) := do
  return (← inside .bracket (commas Ty.parser)).items

/-- An option of a handler, of which there is one. -/
def option (found : Option (List Ty)) : OptionReader (Option (List Ty)) := do
  let key ← parsed name
  if key = "handles" then
    if found.isSome then throw (.duplicateOption key)
    return some (← value typeList)
  else throw (.unknownHandlerOption key)

/-- The options of a handler from their tokens. -/
def ofTokens (ts : List Token) : Except Problem HandlerOptions := do
  let handles ← OptionReader.read option none ts
  return ⟨handles.getD []⟩

end HandlerOptions

/-! ### Blocks -/

/-- A parent: its type, and the field that holds it. -/
structure Parent where
  type : Ty
  field : Member

/-- The options of a block. -/
structure BinderOptions where
  parent : Option Parent

namespace BinderOptions

/-- The options of a block that were found. -/
structure Found where
  type : Option Ty
  field : Option Member

/-- An option of a block. -/
def option (found : Found) : OptionReader Found := do
  let key ← parsed name
  if key = "extends" then
    if found.type.isSome then throw (.duplicateOption key)
    return { found with type := some (← value Ty.parser) }
  else if key = "via" then
    if found.field.isSome then throw (.duplicateOption key)
    return { found with field := some (← value member) }
  else throw (.unknownBinderOption key)

/-- Type and field belong together. -/
def ofFound : Found → Except Problem BinderOptions
  | ⟨some t, some f⟩ => .ok ⟨some ⟨t, f⟩⟩
  | ⟨none, none⟩ => .ok ⟨none⟩
  | ⟨some _, none⟩ => .error .parentWithoutField
  | ⟨none, some _⟩ => .error .fieldWithoutParent

/-- The options of a block from their tokens. -/
def ofTokens (ts : List Token) : Except Problem BinderOptions := do
  ofFound (← OptionReader.read option ⟨none, none⟩ ts)

end BinderOptions

end EventWiring
