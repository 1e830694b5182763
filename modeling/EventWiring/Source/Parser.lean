import EventWiring.Source.Token

/-! Parsing tokens. A parser takes tokens from the front of a list or fails. It
decides by looking ahead: a text names the word, the operator or the bracket that
comes next. A copier is a parser that gives back what it took, as it is written
again. -/
namespace EventWiring.Source

/-- A parser. What it leaves is the end of what it was given. -/
structure Parser (α : Type) where
  run : List Token → Option (α × List Token)
  leaves : ∀ {ts : List Token} {a : α} {rest : List Token}, run ts = some (a, rest) → rest <:+ ts

namespace Parser

variable {α β : Type}

/-- Takes nothing and gives a value. -/
protected def pure (a : α) : Parser α where
  run ts := some (a, ts)
  leaves h := by
    cases h
    exact List.suffix_rfl

/-- One parser after another. -/
protected def bind (p : Parser α) (f : α → Parser β) : Parser β where
  run ts := (p.run ts).bind fun (a, rest) => (f a).run rest
  leaves h := by
    obtain ⟨⟨a, middle⟩, hp, hf⟩ := Option.bind_eq_some_iff.mp h
    exact ((f a).leaves hf).trans (p.leaves hp)

instance : Monad Parser where
  pure := Parser.pure
  bind := Parser.bind

/-- Reads nothing. -/
protected def fail : Parser α where
  run _ := none
  leaves h := by cases h

/-- A parser, or another if it fails. -/
protected def orElse (p : Parser α) (q : Unit → Parser α) : Parser α where
  run ts :=
    match p.run ts with
    | some r => some r
    | none => (q ()).run ts
  leaves h := by
    split at h
    · rename_i hp
      exact p.leaves (hp.trans h)
    · exact (q ()).leaves h

instance : Alternative Parser where
  failure := Parser.fail
  orElse := Parser.orElse

/-- The tokens ahead. -/
def remaining : Parser (List Token) where
  run ts := some (ts, ts)
  leaves h := by
    cases h
    exact List.suffix_rfl

/-- Takes a number of tokens, whatever they are. -/
def skip (n : Nat) : Parser Unit where
  run ts := some ((), ts.drop n)
  leaves h := by
    cases h
    exact List.drop_suffix n _

@[simp] theorem run_pure (a : α) (ts : List Token) : (pure a : Parser α).run ts = some (a, ts) :=
  rfl

@[simp] theorem run_bind (p : Parser α) (f : α → Parser β) (ts : List Token) :
    (p >>= f).run ts = (p.run ts).bind fun r => (f r.1).run r.2 := rfl

@[simp] theorem run_failure (ts : List Token) : (failure : Parser α).run ts = none := rfl

@[simp] theorem run_remaining (ts : List Token) : remaining.run ts = some (ts, ts) := rfl

@[simp] theorem run_skip (n : Nat) (ts : List Token) : (skip n).run ts = some ((), ts.drop n) :=
  rfl

@[simp] theorem run_ite (c : Prop) [Decidable c] (p q : Parser α) (ts : List Token) :
    (if c then p else q).run ts = if c then p.run ts else q.run ts := by
  split <;> rfl

end Parser

/-- A parser that gives what it took. -/
abbrev Copier := Parser (List Token)

/-! ### Looking ahead -/

/-- The words that are not names. -/
def reservedWords : List String :=
  ["_", "abstract", "as", "async", "await", "become", "box", "break", "const", "continue",
    "crate", "do", "dyn", "else", "enum", "extern", "false", "final", "fn", "for", "if",
    "impl", "in", "let", "loop", "macro", "match", "mod", "move", "mut", "override", "priv",
    "pub", "ref", "return", "Self", "self", "static", "struct", "super", "trait", "true",
    "try", "type", "typeof", "unsafe", "unsized", "use", "virtual", "where", "while", "yield"]

/-- Whether an operator comes first. Its last mark may be joint to what follows. -/
def atMarks : List Char → List Token → Bool
  | [], _ => true
  | [c], .punct d _ :: _ => c = d
  | c :: cs, .punct d joint :: rest => c = d && joint && atMarks cs rest
  | _, _ => false

/-- Whether a word, an operator or a group with an opening bracket comes first. -/
def atText (text : String) (ts : List Token) : Bool :=
  match ts with
  | [] => false
  | .ident name :: _ => name = text
  | .group d _ :: _ => text = d.opening && !text.isEmpty
  | _ => atMarks text.toList ts && !text.isEmpty && !text.toList.any Char.isAlphanum

/-- Whether any of some texts comes first. -/
def atAny (texts : List String) (ts : List Token) : Bool :=
  texts.any (atText · ts)

/-- Whether a name comes first. -/
def atName : List Token → Bool
  | .ident name :: _ => name ∉ reservedWords
  | _ => false

/-- Whether any word comes first. -/
def atWord : List Token → Bool
  | .ident _ :: _ => true
  | _ => false

/-- Whether a lifetime comes first. -/
def atLifetime : List Token → Bool
  | .lifetime _ :: _ => true
  | _ => false

/-- Whether the text of a literal is that of a number. -/
def isNumber (text : String) : Bool :=
  text.toList.head?.any fun c => '0' ≤ c && c ≤ '9'

/-- Whether the text of a literal is that of a string. -/
def isString (text : String) : Bool :=
  text.toList.head?.any fun c => c = '"' || c = 'r'

/-- Whether a literal comes first: also a truth value or a negative number. -/
def atLiteral : List Token → Bool
  | .literal _ :: _ => true
  | .ident name :: _ => name = "true" || name = "false"
  | .punct '-' _ :: .literal text :: _ => isNumber text
  | _ => false

/-- Whether a single colon comes first, and not two. -/
def atColon (ts : List Token) : Bool :=
  atText ":" ts && !atText "::" ts

/-! ### Taking tokens -/

namespace Parser

variable {α : Type}

/-- Whether the tokens ahead meet a condition. -/
def ahead (p : List Token → Bool) : Parser Bool := do
  return p (← remaining)

/-- Whether a text comes first. -/
def sees (text : String) : Parser Bool := ahead (atText text)

/-- Whether nothing is left. -/
def atEnd : Parser Bool := ahead List.isEmpty

/-- Takes nothing. -/
def nothing : Copier := return []

/-- Takes everything that is left. -/
def everything : Copier := do
  let ts ← remaining
  skip ts.length
  return ts

/-- Takes a word or an operator. An operator is written with the marks of its own
spacing. -/
def text (s : String) : Copier := do
  match ← remaining with
  | .ident name :: _ =>
    if name = s then
      skip 1
      return [.ident name]
    else failure
  | ts =>
    if atText s ts && !atAny ["(", "[", "\x7b"] ts then
      skip s.length
      return Token.operator s
    else failure

/-- Takes a text if it comes first. -/
def textIf (s : String) : Copier := do
  if ← sees s then text s else nothing

/-- Takes a text if it comes first, and tells whether it did. -/
def took (s : String) : Parser Bool := do
  if ← sees s then
    let _ ← text s
    return true
  else return false

/-- Takes a name. -/
def name : Parser String := do
  match ← remaining with
  | .ident n :: _ =>
    if n ∈ reservedWords then failure
    skip 1
    return n
  | _ => failure

/-- Takes any word. -/
def word : Parser String := do
  match ← remaining with
  | .ident n :: _ => skip 1; return n
  | _ => failure

/-- Takes a lifetime. -/
def lifetime : Parser String := do
  match ← remaining with
  | .lifetime n :: _ => skip 1; return n
  | _ => failure

/-- Takes a literal. -/
def literal : Copier := do
  match ← remaining with
  | .literal t :: _ => skip 1; return [.literal t]
  | .ident n :: _ =>
    if n = "true" || n = "false" then
      skip 1
      return [.ident n]
    else failure
  | .punct '-' _ :: .literal t :: _ =>
    if isNumber t then
      skip 2
      return [.punct '-' false, .literal t]
    else failure
  | _ => failure

/-- Takes a string literal. -/
def stringLiteral : Copier := do
  match ← remaining with
  | .literal t :: _ =>
    if isString t then
      skip 1
      return [.literal t]
    else failure
  | _ => failure

/-- Runs a parser on all of some tokens. -/
def onAll (p : Parser α) (ts : List Token) : Parser α :=
  match p.run ts with
  | some (a, []) => return a
  | _ => failure

/-- Takes a group whose content a parser takes completely. -/
def inside (d : Delimiter) (p : Parser α) : Parser α := do
  match ← remaining with
  | .group e inner :: _ =>
    if d = e then
      skip 1
      onAll p inner
    else failure
  | _ => failure

/-- Takes a group and copies its content. -/
def group (d : Delimiter) (p : Copier) : Copier := do
  return [.group d (← inside d p)]

/-- Takes a group in brackets of any kind as it is. -/
def anyGroup : Parser (Delimiter × List Token) := do
  match ← remaining with
  | .group .invisible _ :: _ => failure
  | .group d inner :: _ => skip 1; return (d, inner)
  | _ => failure

/-- What was taken since some tokens were ahead. -/
def taken (before : List Token) : Copier := do
  return before.take (before.length - (← remaining).length)

/-- Runs a parser without taking anything: the tokens that it would leave. -/
def trial (p : Parser α) : Parser (Option (List Token)) := do
  return (p.run (← remaining)).map (·.2)

/-! ### Combining -/

/-- Copies one after another. -/
def seq : List Copier → Copier
  | [] => nothing
  | c :: rest => do
    let ts ← c
    return ts ++ (← seq rest)

/-- Copies if a condition holds ahead. -/
def copyIf (p : List Token → Bool) (c : Copier) : Copier := do
  if ← ahead p then c else nothing

/-- Repeats a parser as long as a condition holds ahead. The first argument bounds
the number of rounds. -/
def repeatFor (p : List Token → Bool) (parser : Parser α) : Nat → Parser (List α)
  | 0 => return []
  | n + 1 => do
    if ← ahead p then
      let a ← parser
      return a :: (← repeatFor p parser n)
    else return []

/-- Repeats a parser as long as a condition holds ahead. Each round takes a token,
so the tokens left bound the rounds. -/
def repeatWhile (p : List Token → Bool) (parser : Parser α) : Parser (List α) := do
  repeatFor p parser ((← remaining).length + 1)

/-- Copies as long as a condition holds ahead. -/
def copyWhile (p : List Token → Bool) (c : Copier) : Copier := do
  return (← repeatWhile p c).flatten

end Parser

/-! ### Lists with marks between the items -/

/-- Items with a mark between any two and perhaps one behind the last. -/
structure Marked (α : Type) where
  items : List α
  trailing : Bool
deriving Repr

namespace Marked

variable {α : Type}

/-- No items. -/
def empty : Marked α := ⟨[], false⟩

/-- Copied items with their marks. -/
def join (mark : String) (trailing : Bool) : List (List Token) → List Token
  | [] => []
  | [ts] => ts ++ if trailing then Token.operator mark else []
  | ts :: us :: rest => ts ++ Token.operator mark ++ join mark trailing (us :: rest)

/-- The copied items with their marks. -/
def tokens (mark : String) (m : Marked (List Token)) : List Token :=
  join mark m.trailing m.items

end Marked

namespace Parser

variable {α : Type}

/-- Items up to a stop, each followed by a mark or the stop. -/
def itemsUntil (stop : List Token → Bool) (mark : String) (item : Parser α) :
    Nat → Parser (Marked α)
  | 0 => failure
  | n + 1 => do
    if ← ahead stop then return .empty
    let a ← item
    if ← ahead stop then return ⟨[a], false⟩
    let _ ← text mark
    let rest ← itemsUntil stop mark item n
    return ⟨a :: rest.items, rest.items.isEmpty || rest.trailing⟩

/-- Items up to a stop, each followed by a mark or the stop. -/
def separated (stop : List Token → Bool) (mark : String) (item : Parser α) :
    Parser (Marked α) := do
  itemsUntil stop mark item ((← remaining).length + 1)

/-- Items that marks hold together, up to a stop behind a mark. -/
def itemsWhile (stop : List Token → Bool) (mark : String) (item : Parser α) :
    Nat → Parser (Marked α)
  | 0 => failure
  | n + 1 => do
    if ← ahead stop then return .empty
    let a ← item
    if ← took mark then
      let rest ← itemsWhile stop mark item n
      return ⟨a :: rest.items, rest.items.isEmpty || rest.trailing⟩
    else return ⟨[a], false⟩

/-- Items that marks hold together, up to a stop behind a mark. -/
def chained (stop : List Token → Bool) (mark : String) (item : Parser α) :
    Parser (Marked α) := do
  itemsWhile stop mark item ((← remaining).length + 1)

/-- Items with commas to the end. -/
def commas (item : Parser α) : Parser (Marked α) :=
  separated List.isEmpty "," item

/-- Copied items with commas to the end. -/
def copyCommas (item : Copier) : Copier := do
  return (← commas item).tokens ","

end Parser

end EventWiring.Source
