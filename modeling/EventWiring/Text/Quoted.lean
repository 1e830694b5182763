import EventWiring.Text.Printable

/-! Quoted text. A string is shown between double quotes so that the quotes end
it unambiguously and nothing inside is invisible: quotes, backslashes and the
usual control characters have two-character escapes, and every other character
that cannot be shown safely is written by its code point. -/
namespace EventWiring.Text

/-- The lower-case hexadecimal digits of a code point. -/
def hexDigits (n : Nat) : List Char :=
  Nat.toDigits 16 n

/-- An escape naming the code point. -/
def codePointEscape (c : Char) : List Char :=
  '\\' :: 'u' :: '{' :: (hexDigits c.toNat ++ ['}'])

/-- How one character is written between double quotes. -/
def quotedChar (c : Char) : List Char :=
  if c = '\x00' then ['\\', '0']
  else if c = '\t' then ['\\', 't']
  else if c = '\n' then ['\\', 'n']
  else if c = '\r' then ['\\', 'r']
  else if c = '"' then ['\\', '"']
  else if c = '\\' then ['\\', '\\']
  else if extenders.contains c then codePointEscape c
  else if printable.contains c then [c]
  else codePointEscape c

/-- A string between double quotes, every character escaped as needed. -/
def quoted (s : String) : String :=
  String.ofList ('"' :: (s.toList.flatMap quotedChar ++ ['"']))

/-- An octal digit, which would lengthen a null escape written before it. -/
def isOctalDigit (c : Char) : Bool :=
  '0' ≤ c && c ≤ '7'

/-- The characters of a string literal. A null before an octal digit takes the
two-digit escape, so that no reader takes the digit for a part of it. -/
def literalChars : List Char → List Char
  | [] => []
  | c :: rest =>
    let written :=
      if c = '\x00' && rest.head?.any isOctalDigit then ['\\', 'x', '0', '0']
      else quotedChar c
    written ++ literalChars rest

/-- A string as a literal of source text. -/
def stringLiteral (s : String) : String :=
  String.ofList ('"' :: (literalChars s.toList ++ ['"']))

end EventWiring.Text
