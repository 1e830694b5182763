import EventWiring.Json.Value

/-! The compact text of a JSON value: no blanks, entries in the object's order,
strings escaped only where JSON requires it. -/
namespace EventWiring.Json

/-- Reals from `1e-5` up to `1e16` are written positionally; an exponent has a
sign and at least two digits. -/
def realFormat : RealFormat := ⟨-5, 16, 2⟩

/-- Whether the sign bit of a double is set. -/
def signBit (bits : UInt64) : Bool :=
  bits.toNat / Nat.pow 2 63 = 1

/-- The text of a double. JSON has no infinities, so those read as null. -/
def realText (bits : UInt64) : List Char :=
  match Binary.ofBits bits with
  | none => "null".toList
  | some b =>
    let magnitude := b.shortest.text realFormat
    if signBit bits then '-' :: magnitude else magnitude

/-- The text of a number. -/
def Number.text : Number → List Char
  | .whole n => (toString n).toList
  | .real bits => realText bits

/-- The escape of a control character without a short form. -/
def controlEscape (c : Char) : List Char :=
  let ds := Nat.toDigits 16 c.toNat
  '\\' :: 'u' :: (List.replicate (4 - ds.length) '0' ++ ds)

/-- How one character is written inside a JSON string. -/
def stringChar (c : Char) : List Char :=
  if c = '"' then ['\\', '"']
  else if c = '\\' then ['\\', '\\']
  else if c = '\n' then ['\\', 'n']
  else if c = '\r' then ['\\', 'r']
  else if c = '\t' then ['\\', 't']
  else if c = '\x08' then ['\\', 'b']
  else if c = '\x0c' then ['\\', 'f']
  else if c.toNat < 0x20 then controlEscape c
  else [c]

/-- A JSON string with its quotes. -/
def stringText (s : String) : List Char :=
  '"' :: (s.toList.flatMap stringChar ++ ['"'])

mutual

/-- The compact text of a value. -/
def chars : Json → List Char
  | .null => "null".toList
  | .bool b => (if b then "true" else "false").toList
  | .number n => n.text
  | .string s => stringText s
  | .array items => '[' :: (itemChars items ++ [']'])
  | .object entries => '{' :: (entryChars entries ++ ['}'])

/-- The items of an array, separated by commas. -/
def itemChars : List Json → List Char
  | [] => []
  | [v] => chars v
  | v :: w :: rest => chars v ++ ',' :: itemChars (w :: rest)

/-- The entries of an object, separated by commas. -/
def entryChars : List (String × Json) → List Char
  | [] => []
  | [(k, v)] => stringText k ++ ':' :: chars v
  | (k, v) :: e :: rest => stringText k ++ ':' :: chars v ++ ',' :: entryChars (e :: rest)

end

/-- The compact text of a value as a string. -/
def compact (v : Json) : String :=
  String.ofList (chars v)

end EventWiring.Json
