import EventWiring.Source.Identifier
import EventWiring.Source.Token
import EventWiring.Text.Blank
import EventWiring.Text.Quoted

/-! Lexing source text. Blanks and plain comments vanish; a documentation comment
becomes the attribute that it stands for. Literals are tried first, then marks,
then words, and each part gives what remains of the text. -/
namespace EventWiring.Source

/-! ### Blanks and comments -/

/-- What follows a block comment. Comments nest; the first argument counts those
that are open. -/
def afterComment : Nat → List Char → Option (List Char)
  | depth, '/' :: '*' :: rest => afterComment (depth + 1) rest
  | depth, '*' :: '/' :: rest =>
    if depth ≤ 1 then some rest else afterComment (depth - 1) rest
  | depth, _ :: rest => afterComment depth rest
  | _, [] => none

/-- The rest of a line and what follows it. A carriage return goes with the line
feed behind it. -/
def splitLine : List Char → List Char × List Char
  | [] => ([], [])
  | '\r' :: '\n' :: rest => ([], '\n' :: rest)
  | '\n' :: rest => ([], '\n' :: rest)
  | c :: rest => let (line, tail) := splitLine rest; (c :: line, tail)

/-- Whether a text starts with a word. -/
def startsWith (word : String) (cs : List Char) : Bool :=
  word.toList.isPrefixOf cs

/-- Whether a text starts with a line comment that is no documentation. -/
def atLineComment (cs : List Char) : Bool :=
  startsWith "//" cs && (!startsWith "///" cs || startsWith "////" cs) && !startsWith "//!" cs

/-- Whether a text starts with a block comment that is no documentation. -/
def atBlockComment (cs : List Char) : Bool :=
  startsWith "/**/" cs ||
    (startsWith "/*" cs && (!startsWith "/**" cs || startsWith "/***" cs) && !startsWith "/*!" cs)

/-- Whether a character is skipped between tokens. The marks that set the
direction of writing are. -/
def isSkipped (c : Char) : Bool :=
  Text.isBlank c || c = '\u200e' || c = '\u200f'

/-- Skips blanks and plain comments. The first argument bounds the number of
characters. -/
def skipBlanks : Nat → List Char → List Char
  | 0, cs => cs
  | n + 1, cs =>
    if atLineComment cs then skipBlanks n (splitLine cs).2
    else if atBlockComment cs then
      match afterComment 0 cs with
      | some rest => skipBlanks n rest
      | none => cs
    else
      match cs with
      | c :: rest => if isSkipped c then skipBlanks n rest else cs
      | [] => []

/-- Whether a carriage return stands without a line feed behind it. -/
def hasBareReturn : List Char → Bool
  | [] => false
  | '\r' :: '\n' :: rest => hasBareReturn rest
  | '\r' :: _ => true
  | _ :: rest => hasBareReturn rest

/-- The part of a text before what remains of it. -/
def consumed (cs rest : List Char) : List Char :=
  cs.take (cs.length - rest.length)

/-- The text of a block comment without its marks, and what follows. -/
def blockText? (cs : List Char) : Option (List Char × List Char) := do
  let rest ← afterComment 0 cs
  let whole := consumed cs rest
  some ((whole.take (whole.length - 2)).drop 3, rest)

/-- A documentation comment: whether it belongs to what encloses it, its text,
and what follows. -/
def docComment? (cs : List Char) : Option (Bool × List Char × List Char) := do
  let (inner, text, rest) ←
    if startsWith "//!" cs then
      let (line, rest) := splitLine (cs.drop 3)
      some (true, line, rest)
    else if startsWith "/*!" cs then (blockText? cs).map fun (t, r) => (true, t, r)
    else if startsWith "///" cs then
      if startsWith "////" cs then none
      else
        let (line, rest) := splitLine (cs.drop 3)
        some (false, line, rest)
    else if startsWith "/**" cs && !startsWith "/***" cs then
      (blockText? cs).map fun (t, r) => (false, t, r)
    else none
  if hasBareReturn text then none else some (inner, text, rest)

/-- The attribute that a documentation comment stands for. -/
def docAttribute (inner : Bool) (text : List Char) : List Token :=
  .punct '#' false :: (if inner then [.punct '!' false] else []) ++
    [.group .bracket [.ident "doc", .punct '=' false,
      .literal (Text.stringLiteral (String.ofList text))]]

/-! ### Quoted literals -/

/-- What a quoted literal holds: text, bytes, or text without null. -/
inductive QuotedKind where
  | text
  | bytes
  | nullFree
deriving DecidableEq, Repr

/-- The value of a hexadecimal digit in either case. -/
def hexValue? (c : Char) : Option Nat :=
  if '0' ≤ c && c ≤ '9' then some (c.toNat - '0'.toNat)
  else if 'a' ≤ c && c ≤ 'f' then some (c.toNat - 'a'.toNat + 10)
  else if 'A' ≤ c && c ≤ 'F' then some (c.toNat - 'A'.toNat + 10)
  else none

/-- What follows an escape by two digits. Text allows ASCII only. -/
def afterHexEscape (k : QuotedKind) : List Char → Option (List Char)
  | a :: b :: rest => do
    let x ← hexValue? a
    let y ← hexValue? b
    match k with
    | .text => if x ≤ 7 then some rest else none
    | .bytes => some rest
    | .nullFree => if x = 0 && y = 0 then none else some rest
  | _ => none

/-- The code point of an escape in braces, after the opening one, and what
follows. It has one to six digits, with underscores between and behind them. -/
def codePoint? : Nat → Nat → List Char → Option (Nat × List Char)
  | count, value, c :: rest =>
    if c = '_' && 0 < count then codePoint? count value rest
    else if c = '}' && 0 < count then
      if value < 0xd800 || (0xe000 ≤ value && value < 0x110000) then some (value, rest) else none
    else
      match hexValue? c with
      | some d => if count = 6 then none else codePoint? (count + 1) (value * 16 + d) rest
      | none => none
  | _, _, [] => none

/-- What follows an escape by code point. -/
def afterCodeEscape (k : QuotedKind) : List Char → Option (List Char)
  | '{' :: rest => do
    let (value, rest) ← codePoint? 0 0 rest
    if k = .nullFree && value = 0 then none else some rest
  | _ => none

/-- What follows the blanks after an escaped line break. A carriage return needs a
line feed behind it, and the literal must go on. -/
def afterContinuation : List Char → Option (List Char)
  | '\r' :: '\n' :: rest => afterContinuation rest
  | '\r' :: _ => none
  | ' ' :: rest => afterContinuation rest
  | '\t' :: rest => afterContinuation rest
  | '\n' :: rest => afterContinuation rest
  | [] => none
  | cs => some cs

/-- What follows the escape after a backslash. -/
def afterEscape (k : QuotedKind) : List Char → Option (List Char)
  | 'x' :: rest => afterHexEscape k rest
  | 'u' :: rest => if k = .bytes then none else afterCodeEscape k rest
  | '0' :: rest => if k = .nullFree then none else some rest
  | '\n' :: rest => afterContinuation ('\n' :: rest)
  | '\r' :: rest => afterContinuation ('\r' :: rest)
  | c :: rest => if c ∈ ['n', 'r', 't', '\\', '\'', '"'] then some rest else none
  | [] => none

/-- Whether a character may stand in a literal as it is. -/
def QuotedKind.allows (k : QuotedKind) (c : Char) : Bool :=
  match k with
  | .text => true
  | .bytes => c.toNat < 0x80
  | .nullFree => c ≠ '\x00'

/-- What follows a string after its opening quote. The first argument bounds the
number of characters. -/
def afterString (k : QuotedKind) : Nat → List Char → Option (List Char)
  | 0, _ => none
  | n + 1, cs =>
    match cs with
    | [] => none
    | '"' :: rest => some rest
    | '\r' :: '\n' :: rest => afterString k n rest
    | '\r' :: _ => none
    | '\\' :: rest => (afterEscape k rest).bind (afterString k n)
    | c :: rest => if k.allows c then afterString k n rest else none

/-- What follows a raw string after its opening quote: it ends at the first quote
with the same number of hashes behind it. -/
def afterRawString (k : QuotedKind) (hashes : List Char) : List Char → Option (List Char)
  | [] => none
  | '"' :: rest =>
    if hashes.isPrefixOf rest then some (rest.drop hashes.length)
    else afterRawString k hashes rest
  | '\r' :: '\n' :: rest => afterRawString k hashes rest
  | '\r' :: _ => none
  | c :: rest => if k.allows c then afterRawString k hashes rest else none

/-- What follows a raw string after its letters. -/
def afterRaw (k : QuotedKind) (cs : List Char) : Option (List Char) :=
  let hashes := cs.takeWhile (· = '#')
  match cs.drop hashes.length with
  | '"' :: rest => if hashes.length ≤ 255 then afterRawString k hashes rest else none
  | _ => none

/-- What follows the quote that ends a character literal. -/
def afterQuote : List Char → Option (List Char)
  | '\'' :: rest => some rest
  | _ => none

/-- What follows a character literal after its opening quote. The line break
escapes of strings are not among its escapes. -/
def afterCharacter (k : QuotedKind) : List Char → Option (List Char)
  | '\\' :: '\n' :: _ => none
  | '\\' :: '\r' :: _ => none
  | '\\' :: rest => (afterEscape k rest).bind afterQuote
  | c :: rest => if k.allows c then afterQuote rest else none
  | [] => none

/-- What follows a quoted literal, any suffix still to come. -/
def afterQuoted (cs : List Char) : Option (List Char) :=
  match cs with
  | '"' :: rest => afterString .text rest.length rest
  | 'r' :: rest => afterRaw .text rest
  | 'b' :: '"' :: rest => afterString .bytes rest.length rest
  | 'b' :: 'r' :: rest => afterRaw .bytes rest
  | 'b' :: '\'' :: rest => afterCharacter .bytes rest
  | 'c' :: '"' :: rest => afterString .nullFree rest.length rest
  | 'c' :: 'r' :: rest => afterRaw .nullFree rest
  | '\'' :: rest => afterCharacter .text rest
  | _ => none

/-- What follows the identifier that a text may start with. -/
def afterSuffix (cs : List Char) : List Char :=
  match splitIdent? cs with
  | some (_, rest) => rest
  | none => cs

/-! ### Numbers -/

/-- Whether a character is a decimal digit. -/
def isDigit (c : Char) : Bool := '0' ≤ c && c ≤ '9'

/-- What follows the digits of a real number, whether a point was among them,
and whether an exponent begins there. A point with another point or a word behind
it is no part of a number. -/
def afterMantissa : Bool → List Char → Option (List Char × Bool × Bool)
  | point, [] => some ([], point, false)
  | point, c :: rest =>
    if isDigit c || c = '_' then afterMantissa point rest
    else if c = '.' then
      if point then some (c :: rest, point, false)
      else
        match rest with
        | [] => some ([], true, false)
        | d :: _ => if d = '.' || isIdentStart d then none else afterMantissa true rest
    else some (c :: rest, point, c = 'e' || c = 'E')

/-- What follows an exponent after its letter; none when it has no digit. -/
def afterExponent : Bool → Bool → List Char → Option (List Char)
  | _, value, [] => if value then some [] else none
  | sign, value, c :: rest =>
    if c = '+' || c = '-' then
      if value then some (c :: rest) else if sign then none else afterExponent true value rest
    else if isDigit c then afterExponent sign true rest
    else if c = '_' then afterExponent sign value rest
    else if value then some (c :: rest) else none

/-- What follows the digits of a real number. It has a point or an exponent. A
letter that begins no exponent is left to the suffix. -/
def afterReal (cs : List Char) : Option (List Char) :=
  match cs with
  | c :: rest =>
    if !isDigit c then none
    else
      match afterMantissa false rest with
      | none => none
      | some (tail, point, exponent) =>
        if exponent then
          match afterExponent false false (tail.drop 1) with
          | some after => some after
          | none => if point then some tail else none
        else if point then some tail else none
  | [] => none

/-- What follows digits of a base, and whether there was one. A decimal digit
outside the base makes the number invalid; a letter outside it ends the digits. -/
def afterDigits (base : Nat) (any : Bool) : List Char → Option (List Char)
  | [] => if any then some [] else none
  | c :: rest =>
    if c = '_' then
      if !any && base = 10 then none else afterDigits base any rest
    else
      match hexValue? c with
      | none => if any then some (c :: rest) else none
      | some d =>
        if d < base then afterDigits base true rest
        else if isDigit c then none
        else if any then some (c :: rest) else none

/-- What follows the digits of a whole number. -/
def afterWhole : List Char → Option (List Char)
  | '0' :: 'x' :: rest => afterDigits 16 false rest
  | '0' :: 'o' :: rest => afterDigits 8 false rest
  | '0' :: 'b' :: rest => afterDigits 2 false rest
  | cs => afterDigits 10 false cs

/-- What follows a number with its suffix, where no word may go on. -/
def afterNumber (rest : List Char) : Option (List Char) :=
  let rest := afterSuffix rest
  if rest.head?.any isIdentContinue then none else some rest

/-- What follows a literal. -/
def afterLiteral (cs : List Char) : Option (List Char) :=
  match afterQuoted cs with
  | some rest => some (afterSuffix rest)
  | none =>
    match (afterReal cs).bind afterNumber with
    | some rest => some rest
    | none => (afterWhole cs).bind afterNumber

/-! ### Words and marks -/

/-- The words that cannot be escaped. -/
def unescapable : List String := ["_", "super", "self", "Self", "crate"]

/-- A word, escaped or not, and what follows. -/
def anyWord? (cs : List Char) : Option (List Char × List Char) :=
  if startsWith "r#" cs then do
    let (name, rest) ← splitIdent? (cs.drop 2)
    if String.ofList name ∈ unescapable then none else some ('r' :: '#' :: name, rest)
  else splitIdent? cs

/-- The beginnings of quoted literals, at which no word begins. -/
def quotedPrefixes : List String :=
  ["r\"", "r#\"", "r##", "b\"", "b'", "br\"", "br#", "c\"", "cr\"", "cr#"]

/-- A word that does not begin like a quoted literal, and what follows. -/
def word? (cs : List Char) : Option (List Char × List Char) :=
  if quotedPrefixes.any (startsWith · cs) then none else anyWord? cs

/-- The punctuation marks. -/
def marks : List Char := "~!@#$%^&*-=+|;:,<.>/?'".toList

/-- Whether a text starts with a mark. The slash of a comment is none. -/
def atMark (cs : List Char) : Bool :=
  !startsWith "//" cs && !startsWith "/*" cs && cs.head?.any (· ∈ marks)

/-- What is read at once: an opening or a closing bracket, or tokens. -/
inductive Lexeme where
  | opening (d : Delimiter)
  | closing (d : Delimiter)
  | tokens (list : List Token)

/-- A quote that begins a lifetime, and what follows. The word behind it is part
of the lifetime unless it begins a literal. -/
def lifetime? (rest : List Char) : Option (Token × List Char) := do
  let (_, after) ← anyWord? rest
  if startsWith "'" after || (startsWith "#" after && !startsWith "r#" rest) then none
  else if (afterLiteral rest).isSome then some (.punct '\'' true, rest)
  else
    let (name, after) ← word? rest
    some (.lifetime (String.ofList ('\'' :: name)), after)

/-- A token that is no group, and what follows. -/
def leaf? (cs : List Char) : Option (Token × List Char) :=
  match afterLiteral cs with
  | some rest => some (.literal (String.ofList (consumed cs rest)), rest)
  | none =>
    if atMark cs then
      match cs with
      | '\'' :: rest => lifetime? rest
      | c :: rest => some (.punct c (atMark rest), rest)
      | [] => none
    else (word? cs).map fun (name, rest) => (.ident (String.ofList name), rest)

/-- The brackets. -/
def bracketOf? : Char → Option Lexeme
  | '(' => some (.opening .parenthesis)
  | '[' => some (.opening .bracket)
  | '{' => some (.opening .brace)
  | ')' => some (.closing .parenthesis)
  | ']' => some (.closing .bracket)
  | '}' => some (.closing .brace)
  | _ => none

/-- What is read at the front of a text without blanks, and what follows. -/
def lexeme? (cs : List Char) : Option (Lexeme × List Char) :=
  match docComment? cs with
  | some (inner, text, rest) => some (.tokens (docAttribute inner text), rest)
  | none =>
    match cs.head?.bind bracketOf? with
    | some b => some (b, cs.drop 1)
    | none => (leaf? cs).map fun (t, rest) => (.tokens [t], rest)

/-- Reads a text to its end. The first argument bounds the number of lexemes. -/
def lexemes? : Nat → List Char → Option (List Lexeme)
  | n, cs =>
    match n, skipBlanks cs.length cs with
    | _, [] => some []
    | 0, _ :: _ => none
    | n + 1, c :: rest => do
      let (lexeme, rest) ← lexeme? (c :: rest)
      let more ← lexemes? n rest
      some (lexeme :: more)

/-! ### Groups -/

/-- Builds trees from lexemes. The first argument holds the groups that are open,
innermost first, with the tokens before each; `done` holds the tokens of the
innermost, last first. -/
def nest? : List (Delimiter × List Token) → List Token → List Lexeme → Option (List Token)
  | [], done, [] => some done.reverse
  | _ :: _, _, [] => none
  | outer, done, .tokens list :: rest => nest? outer (list.reverse ++ done) rest
  | outer, done, .opening d :: rest => nest? ((d, done) :: outer) [] rest
  | [], _, .closing _ :: _ => none
  | (d, before) :: outer, done, .closing e :: rest =>
    if d = e then nest? outer (.group d done.reverse :: before) rest else none

/-- Drops the mark of the byte order at the front of a text. -/
def dropByteOrderMark : List Char → List Char
  | '\ufeff' :: rest => rest
  | cs => cs

/-- The tokens of a source text; none when it cannot be split into tokens. -/
def lex? (text : String) : Option (List Token) := do
  let cs := dropByteOrderMark text.toList
  nest? [] [] (← lexemes? cs.length cs)

end EventWiring.Source
