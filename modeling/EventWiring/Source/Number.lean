/-! The value of a whole number in source text. -/
namespace EventWiring.Source

/-- The value of a digit, of which those above nine are letters. -/
def digitValue? (c : Char) : Option Nat :=
  if '0' ≤ c && c ≤ '9' then some (c.toNat - '0'.toNat)
  else if 'a' ≤ c && c ≤ 'f' then some (c.toNat - 'a'.toNat + 10)
  else if 'A' ≤ c && c ≤ 'F' then some (c.toNat - 'A'.toNat + 10)
  else none

/-- Whether digits, underscores and a sign that make a real number follow the
letter of an exponent. -/
def beginsExponent (cs : List Char) : Bool :=
  let run := cs.takeWhile fun c => c.isDigit || c = '_'
  match cs.drop run.length with
  | '+' :: _ => true
  | '-' :: _ => true
  | _ => run.any Char.isDigit

/-- The value of digits of a base with underscores, whether there was a digit, and
the suffix behind them. None for a real number and for a digit outside the base. -/
def readDigits (base : Nat) : Nat → Bool → List Char → Option (Nat × Bool × List Char)
  | value, any, [] => some (value, any, [])
  | value, any, c :: rest =>
    if c = '_' then readDigits base value any rest
    else if base = 10 && c = '.' then none
    else if base = 10 && (c = 'e' || c = 'E') then
      if beginsExponent rest then none else some (value, any, c :: rest)
    else
      match digitValue? c with
      | none => some (value, any, c :: rest)
      | some d =>
        if 10 < base || c.isDigit then
          if d < base then readDigits base (value * base + d) true rest else none
        else some (value, any, c :: rest)

/-- The value and the suffix of a whole number. -/
def wholeNumber? (text : String) : Option (Nat × List Char) := do
  let (value, any, suffix) ← match text.toList with
    | '0' :: 'x' :: rest => readDigits 16 0 false rest
    | '0' :: 'o' :: rest => readDigits 8 0 false rest
    | '0' :: 'b' :: rest => readDigits 2 0 false rest
    | c :: rest => if c.isDigit then readDigits 10 0 false (c :: rest) else none
    | [] => none
  if any then some (value, suffix) else none

/-- The value of a field number: without suffix, and within 32 bits. -/
def fieldNumber? (text : String) : Option Nat := do
  let (value, suffix) ← wholeNumber? text
  if suffix.isEmpty && value < Nat.pow 2 32 then some value else none

end EventWiring.Source
