import EventWiring.Source.Grammar.Patterns

/-! Copying expressions. Operators have ranks; an operand is followed by operators
of its rank or above. What may follow an expression depends on its shape. -/
namespace EventWiring.Source

open Source.Parser

/-! ### Operators -/

/-- The ranks of operators, weakest first. -/
def rankAssign : Nat := 1
/-- The rank of ranges. -/
def rankRange : Nat := 2
/-- The rank of comparisons. -/
def rankCompare : Nat := 6
/-- The rank of casts. -/
def rankCast : Nat := 13

/-- The operators between two operands with their ranks, longest first where one
begins another. -/
def binaryOperators : List (String × Nat) :=
  [("+=", 1), ("-=", 1), ("*=", 1), ("/=", 1), ("%=", 1), ("^=", 1), ("&=", 1), ("|=", 1),
    ("<<=", 1), (">>=", 1), ("&&", 4), ("||", 3), ("<<", 10), (">>", 10), ("==", 6), ("<=", 6),
    ("!=", 6), (">=", 6), ("+", 11), ("-", 11), ("*", 12), ("/", 12), ("%", 12), ("^", 8),
    ("&", 9), ("|", 7), ("<", 6), (">", 6)]

/-- The operator that comes first, with its rank. -/
def binaryAt (ts : List Token) : Option (String × Nat) :=
  binaryOperators.find? fun op => atText op.1 ts

/-- Whether an assignment comes first. -/
def atAssign (ts : List Token) : Bool := atText "=" ts && !atText "=>" ts

/-- The rank of what comes first, zero if it is no operator. -/
def rankAt (ts : List Token) : Nat :=
  match binaryAt ts with
  | some (_, rank) => rank
  | none =>
    if atAssign ts then rankAssign
    else if atText ".." ts then rankRange
    else if atText "as" ts then rankCast
    else 0

/-- Whether a point that is not a range comes first. -/
def atPoint (ts : List Token) : Bool := atText "." ts && !atText ".." ts

/-- Whether a range with two points has no upper end. -/
def atOpenEnd (records : Bool) (ts : List Token) : Bool :=
  ts.isEmpty || atPoint ts || (!records && atText "\x7b" ts) ||
    atAny [",", ";", "?", "=>", "=", "+", "/", "%", "^", ">", "<=", "!=", "-=", "*=", "&=",
      "|=", "<<=", "as"] ts

/-- Whether an expression may begin here. -/
def atOperand (ts : List Token) : Bool :=
  atWord ts || atLiteral ts || atLifetime ts || atAny ["(", "[", "\x7b", "..", "::", "#"] ts ||
    (atText "!" ts && !atText "!=" ts) ||
    (atText "-" ts && !atText "-=" ts && !atText "->" ts) ||
    (atText "*" ts && !atText "*=" ts) || (atText "|" ts && !atText "|=" ts) ||
    (atText "&" ts && !atText "&=" ts) ||
    (atText "<" ts && !atText "<=" ts && !atText "<<=" ts)

namespace Grammar

/-- An expression of no special shape. -/
def ordinary (c : Copier) : Parser Piece := do
  return ⟨← c, .other⟩

/-- An expression that ends with its block. -/
def blockLike (c : Copier) : Parser Piece := do
  return ⟨← c, .block⟩

/-- The operand behind an operator of a rank, with the stronger operators behind
it. The first argument bounds how many there are. -/
def strongerThan (g : Grammar) (records : Bool) (rank : Nat) : Nat → Piece → Parser Piece
  | 0, rhs => return rhs
  | n + 1, rhs => do
    let before ← remaining
    let next := rankAt before
    if rank < next || (next = rank && rank = rankAssign) then
      let rhs ← g.operators records next rhs
      if (← remaining).length = before.length then return rhs
      else g.strongerThan records rank n rhs
    else return rhs

/-- The right side of an operator of a rank. -/
def rightSide (g : Grammar) (records : Bool) (rank : Nat) : Parser Piece := do
  let rhs ← g.operand records
  g.strongerThan records rank ((← remaining).length + 1) rhs

/-- A range after its lower end. -/
def range (g : Grammar) (records : Bool) (start : List Token) : Parser Piece := do
  if ← sees "..=" then
    let points ← text "..="
    return ⟨start ++ points ++ (← g.rightSide records rankRange).tokens, .range⟩
  if ← sees "..." then failure
  let points ← text ".."
  if ← ahead (atOpenEnd records) then return ⟨start ++ points, .range⟩
  return ⟨start ++ points ++ (← g.rightSide records rankRange).tokens, .range⟩

/-- Whether a trailer comes first, which a cast may not have. -/
def atTrailer (ts : List Token) : Bool := atPoint ts || atAny ["?", "[", "("] ts

/-- What follows an operand, down to operators of a rank. A range takes no further
operators, and comparisons are not chained. -/
def parseOperators (g : Grammar) (records : Bool) (base : Nat) (lhs : Piece) : Parser Piece := do
  let ts ← remaining
  if lhs.shape = .range then return lhs
  match binaryAt ts with
  | some (op, rank) =>
    if rank < base then return lhs
    if rank = rankCompare && lhs.shape = .comparison then failure
    let mark ← text op
    let rhs ← g.rightSide records rank
    let shape := if rank = rankCompare then .comparison else .other
    g.operators records base ⟨lhs.tokens ++ mark ++ rhs.tokens, shape⟩
  | Option.none =>
    if base ≤ rankAssign && atAssign ts then
      let mark ← text "="
      let rhs ← g.rightSide records rankAssign
      g.operators records base ⟨lhs.tokens ++ mark ++ rhs.tokens, .other⟩
    else if base ≤ rankRange && atText ".." ts then g.range records lhs.tokens
    else if base ≤ rankCast && atText "as" ts then
      let word ← text "as"
      let t ← if ← ahead atGroup then g.groupType false else g.type false
      if ← ahead atTrailer then failure
      g.operators records base ⟨lhs.tokens ++ word ++ t.tokens, .other⟩
    else return lhs

/-- An expression. -/
def parseExpr (g : Grammar) (records : Bool) : Parser Piece := do
  let lhs ← g.operand records
  g.operators records 0 lhs

/-! ### Trailers -/

/-- The parts of a number with points, each a field number. -/
def fieldNumbers? (text : String) : Option (List Nat) :=
  (text.splitOn ".").mapM fieldNumber?

/-- Fields by number, each behind a point. -/
def numberedFields (ns : List Nat) : List Token :=
  ns.flatMap fun n => Token.operator "." ++ [.literal (toString n)]

/-- A real number behind a point is two field numbers with a point between them.
With a point at its end, the next field is still to come. -/
def fieldsOfReal (t : String) : Option (List Token × Bool) :=
  if t.endsWith "." then
    (fieldNumbers? (t.dropEnd 1).toString).map fun ns => (numberedFields ns, true)
  else (fieldNumbers? t).map fun ns => (numberedFields ns, false)

/-- Whether the text of a literal is that of a real number. -/
def isReal (t : String) : Bool := isNumber t && (wholeNumber? t).isNone

/-- A field or a call of a method behind a point. -/
def fieldOrCall (g : Grammar) : Copier := do
  if ← sees "await" then text "await"
  else
    let m ← member
    let args ←
      if m.isNamed && (← sees "::") then
        pure (← g.angleArgs (g.bound false true)).tokens
      else nothing
    if !args.isEmpty && !(← sees "(") then failure
    if m.isNamed && (← sees "(") then
      return m.token :: args ++ (← group .parenthesis (copyCommas g.copyExpr))
    else return m.token :: args

/-- What follows a point, with the point. -/
def afterPoint (g : Grammar) : Copier := do
  let point ← text "."
  match ← remaining with
  | .literal t :: _ =>
    if isReal t then
      match fieldsOfReal t with
      | some (fields, more) =>
        skip 1
        if more then return fields ++ point ++ (← g.fieldOrCall) else return fields
      | Option.none => failure
    else return point ++ (← g.fieldOrCall)
  | _ => return point ++ (← g.fieldOrCall)

/-- The calls, fields, indices and question marks behind an operand. The first
argument bounds how many there are. -/
def trailers (g : Grammar) : Nat → Piece → Parser Piece
  | 0, e => return e
  | n + 1, e => do
    let ts ← remaining
    if atText "(" ts then
      let args ← group .parenthesis (copyCommas g.copyExpr)
      g.trailers n ⟨e.tokens ++ args, .other⟩
    else if atPoint ts && e.shape ≠ .range then
      let field ← g.afterPoint
      g.trailers n ⟨e.tokens ++ field, .other⟩
    else if atText "[" ts then
      let index ← group .bracket g.copyExpr
      g.trailers n ⟨e.tokens ++ index, .other⟩
    else if atText "?" ts && e.shape ≠ .range then
      let mark ← text "?"
      g.trailers n ⟨e.tokens ++ mark, .other⟩
    else return e

/-- An operand with what is behind it. -/
def withTrailers (g : Grammar) (e : Piece) : Parser Piece := do
  g.trailers ((← remaining).length + 1) e

/-! ### Operands -/

/-- A field of a record with its value. -/
def fieldValue (g : Grammar) : Copier := do
  let attrs ← g.outer
  let m ← member
  let colon ← sees ":"
  if colon || !m.isNamed then return attrs ++ m.token :: (← seq [text ":", g.copyExpr])
  else return attrs ++ [m.token]

/-- The fields of a record, perhaps with the rest at the end. The first argument
bounds how many there are. -/
def fieldValues (g : Grammar) : Nat → Copier
  | 0 => failure
  | n + 1 => do
    if ← atEnd then return []
    if ← sees ".." then
      return (← text "..") ++ (← copyIf (fun ts => !ts.isEmpty) g.copyExpr)
    let field ← g.fieldValue
    if ← atEnd then return field
    return field ++ (← text ",") ++ (← g.fieldValues n)

/-- A path, a call of a macro, or a record. -/
def pathExpr (g : Grammar) (records : Bool) : Parser Piece := do
  let p ← g.anyPath true
  let plain := match p with
    | .path p => p.isPlain
    | _ => false
  let ts ← remaining
  if plain && atText "!" ts && !atText "!=" ts then
    let bang ← text "!"
    let (d, inner) ← anyGroup
    return ⟨p.tokens ++ grouped bang d inner, .invocation (d = .brace)⟩
  if records && atText "\x7b" ts then
    ordinary (seq [return p.tokens,
      group .brace (g.fieldValues (Token.sizeAll ts + 1))])
  else return ⟨p.tokens, .other⟩

/-- Elements of an array, or one element and its number. -/
def arrayBody (g : Grammar) : Copier := do
  if ← atEnd then return []
  let first ← g.copyExpr
  if ← sees ";" then return first ++ (← seq [text ";", g.copyExpr])
  if ← atEnd then return first
  return first ++ (← text ",") ++ (← copyCommas g.copyExpr)

/-- A condition: an expression in which a brace opens the block behind it. -/
def condition (g : Grammar) : Copier := do
  return (← g.expr false).tokens

/-- A condition with its block and its alternatives. The first argument bounds how
many there are. -/
def conditional (g : Grammar) : Nat → Copier
  | 0 => failure
  | n + 1 => do
    let head ← seq [text "if", g.condition, g.block]
    if ← sees "else" then
      let word ← text "else"
      if ← sees "if" then return head ++ word ++ (← g.conditional n)
      else return head ++ word ++ (← g.block)
    else return head

/-- A conditional expression. -/
def ifExpr (g : Grammar) : Copier := do
  g.conditional ((← remaining).length + 1)

/-- A loop with a condition. -/
def whileExpr (g : Grammar) : Copier := seq [text "while", g.condition, g.blockWithInner]

/-- A loop over values. -/
def forExpr (g : Grammar) : Copier :=
  seq [text "for", g.copyPattern, text "in", g.condition, g.blockWithInner]

/-- A loop without a condition. -/
def loopExpr (g : Grammar) : Copier := seq [text "loop", g.blockWithInner]

/-- A block or a loop with a label. -/
def labelled (g : Grammar) : Copier := do
  let label ← seq [return [.lifetime (← lifetime)], text ":"]
  let ts ← remaining
  let body ←
    if atText "while" ts then g.whileExpr
    else if atText "for" ts then g.forExpr
    else if atText "loop" ts then g.loopExpr
    else if atText "\x7b" ts then g.blockWithInner
    else failure
  return label ++ body

/-- Whether generics rather than a type in angle brackets come first. -/
def atGenerics (ts : List Token) : Bool :=
  let second := ts.drop 1
  let third := ts.drop 2
  atText "<" ts &&
    (atAny [">", "#", "const"] second ||
      ((atLifetime second || atName second) && (atAny [">", ",", "="] third || atColon third)))

/-- The arms of a match. The first argument bounds how many there are. -/
def armsFor (g : Grammar) : Nat → Copier
  | 0 => failure
  | n + 1 => do
    if ← atEnd then return []
    let head ← seq [g.outer, g.copyPattern,
      copyIf (atText "if") (seq [text "if", g.copyExpr]), text "=>"]
    let body ← g.armBody
    let comma ← if body.shape ≠ .block && !(← atEnd) then text "," else textIf ","
    return head ++ body.tokens ++ comma ++ (← g.armsFor n)

/-- The arms of a match after the attributes at its beginning. -/
def arms (g : Grammar) : Copier := do
  let attrs ← g.inner
  return attrs ++ (← g.armsFor ((← remaining).length + 1))

/-- An expression whose block ends it, if one stands at the beginning of a
statement or of an arm. -/
def leadingBlock? (g : Grammar) (ts : List Token) : Option Copier :=
  let braceNext := atText "\x7b" (ts.drop 1)
  if atText "if" ts then some g.ifExpr
  else if atText "while" ts then some g.whileExpr
  else if atText "for" ts && !atGenerics (ts.drop 1) then some g.forExpr
  else if atText "loop" ts then some g.loopExpr
  else if atText "match" ts then some (seq [text "match", g.condition, group .brace g.arms])
  else if atText "try" ts && braceNext then some (seq [text "try", g.block])
  else if atText "unsafe" ts then some (seq [text "unsafe", g.blockWithInner])
  else if atText "const" ts && braceNext then some (seq [text "const", g.blockWithInner])
  else if atText "\x7b" ts then some g.blockWithInner
  else if atLifetime ts then some g.labelled
  else Option.none
/-- An argument of a closure. -/
def closureArg (g : Grammar) : Copier :=
  seq [g.outer, do return (← g.pattern).tokens,
    copyIf (atText ":") (seq [text ":", g.copyType])]

/-- A closure. With a result type its body is a block. -/
def closure (g : Grammar) (records : Bool) : Copier := do
  let head ← seq [copyIf (atText "for") g.binder, textIf "const", textIf "static",
    textIf "async", textIf "move", text "|"]
  let args ← separated (atText "|") "," g.closureArg
  let bar ← text "|"
  let body ←
    if ← sees "->" then seq [text "->", g.copyType, g.block]
    else do pure (← g.expr records).tokens
  return head ++ args.tokens "," ++ bar ++ body

/-- A value behind a word, if one may begin here. -/
def valueBehind (g : Grammar) (word : String) : Copier :=
  seq [text word, copyIf atOperand g.copyExpr]

/-- A break with its label and its value. A loop with a label needs parentheses as
a value. -/
def breakExpr (g : Grammar) (records : Bool) : Copier := do
  let word ← text "break"
  let label ← copyIf atLifetime do return [.lifetime (← lifetime)]
  if !label.isEmpty && (← sees ":") then failure
  let value ← ahead fun ts => atOperand ts && (records || !atText "\x7b" ts)
  return word ++ label ++ (← if value then do pure (← g.expr records).tokens else nothing)

/-- A condition that matches a value with a pattern. -/
def letExpr (g : Grammar) (records : Bool) : Copier := do
  let head ← seq [text "let", g.copyPattern, text "="]
  let lhs ← g.operand records
  return head ++ (← g.operators records rankCompare lhs).tokens

/-- Whether a closure comes first. -/
def atClosure (ts : List Token) : Bool :=
  let next := ts.drop 1
  atAny ["|", "move", "static"] ts || (atText "for" ts && atGenerics next) ||
    (atText "const" ts && !atText "\x7b" next) ||
    (atText "async" ts && atAny ["|", "move"] next)

/-- Whether an asynchronous block comes first. -/
def atAsyncBlock (ts : List Token) : Bool :=
  atText "async" ts &&
    (atText "\x7b" (ts.drop 1) || (atText "move" (ts.drop 1) && atText "\x7b" (ts.drop 2)))

/-- An operand without signs and trailers. -/
def atom (g : Grammar) (records : Bool) : Parser Piece := do
  let ts ← remaining
  if atLiteral ts then ordinary literal
  else if atAsyncBlock ts then ordinary (seq [text "async", textIf "move", g.block])
  else if atText "try" ts && atText "\x7b" (ts.drop 1) then
    blockLike (seq [text "try", g.block])
  else if atClosure ts then ordinary (g.closure records)
  else if atText "builtin" ts && atText "#" (ts.drop 1) then
    ordinary (seq [text "builtin", text "#", return [.ident (← name)],
      group .parenthesis everything])
  else if atPath ts ||
      (atText "try" ts && atAny ["!", "::"] (ts.drop 1)) then g.pathExpr records
  else if atText "(" ts then ordinary (group .parenthesis (copyCommas g.copyExpr))
  else if atText "break" ts then ordinary (g.breakExpr records)
  else if atText "continue" ts then
    ordinary (seq [text "continue", copyIf atLifetime do return [.lifetime (← lifetime)]])
  else if atText "return" ts then ordinary (g.valueBehind "return")
  else if atText "become" ts then ordinary (seq [text "become", g.copyExpr])
  else if atText "[" ts then ordinary (group .bracket g.arrayBody)
  else if atText "let" ts then ordinary (g.letExpr records)
  else if atText "yield" ts then ordinary (g.valueBehind "yield")
  else if atText ".." ts then g.range records []
  else if atText "_" ts then ordinary (text "_")
  else
    match g.leadingBlock? ts with
    | some c => blockLike c
    | Option.none => failure

/-- An operand with its signs in front and its trailers behind. -/
def parseOperand (g : Grammar) (records : Bool) : Parser Piece := do
  let attrs ← g.outer
  let ts ← remaining
  if atText "&" ts then
    let mark ← text "&"
    let raw ← copyIf (fun ts => atText "raw" ts && atAny ["mut", "const"] (ts.drop 1)) (text "raw")
    let changing ← textIf "mut"
    let fixed ← if !raw.isEmpty && changing.isEmpty then text "const" else nothing
    let e ← g.operand records
    return ⟨attrs ++ mark ++ raw ++ changing ++ fixed ++ e.tokens, .other⟩
  else if atAny ["*", "!", "-"] ts && !atLiteral ts then
    let sign ← if atText "*" ts then text "*" else if atText "!" ts then text "!" else text "-"
    let e ← g.operand records
    return ⟨attrs ++ sign ++ e.tokens, .other⟩
  else
    let a ← g.atom records
    let e ← g.withTrailers a
    return ⟨attrs ++ e.tokens, e.shape⟩

/-- An expression at the beginning of a statement or of an arm: one that ends with
its block ends there, unless a point or a question mark follows. -/
def parseEarly (g : Grammar) : Parser Piece := do
  let attrs ← g.outer
  let ts ← remaining
  match g.leadingBlock? ts with
  | some c =>
    let b ← blockLike c
    if ← ahead fun ts => atPoint ts || atText "?" ts then
      let e ← g.withTrailers b
      let e ← g.operators true 0 e
      return ⟨attrs ++ e.tokens, e.shape⟩
    else return ⟨attrs ++ b.tokens, .block⟩
  | Option.none =>
    let e ← g.operand true
    let e ← if e.shape = .block then pure e else g.operators true 0 e
    return ⟨attrs ++ e.tokens, e.shape⟩

end Grammar

end EventWiring.Source
