import EventWiring.Json.Value

/-! Reading JSON text up to its first fault. The outcome is a tree that records
where the text stops being JSON: an array or object that is never closed keeps
what was read of it, and the value at the fault is `broken`. A decoder walks
this tree from the front, so it reports whichever comes first, a fault of the
text or a value it cannot use. -/
namespace EventWiring.Json

/-- A JSON text as far as it is well formed. -/
inductive Reading where
  | null
  | bool (b : Bool)
  | number (n : Number)
  /-- A number beyond the range of doubles. -/
  | vast
  | string (s : String)
  /-- A string with half of a surrogate pair. -/
  | unpaired
  | array (items : List Reading) (closed : Bool)
  | object (entries : List (String × Reading)) (closed : Bool)
  | broken
deriving Inhabited

/-- Drops the blanks JSON allows between tokens. -/
def skipBlanks (cs : List Char) : List Char :=
  cs.dropWhile fun c => c = ' ' || c = '\n' || c = '\t' || c = '\r'

/-- The value of a decimal digit. -/
def digit? (c : Char) : Option Nat :=
  if '0' ≤ c && c ≤ '9' then some (c.toNat - '0'.toNat) else none

/-- The value of a hexadecimal digit in either case. -/
def hexDigit? (c : Char) : Option Nat :=
  if 'a' ≤ c && c ≤ 'f' then some (c.toNat - 'a'.toNat + 10)
  else if 'A' ≤ c && c ≤ 'F' then some (c.toNat - 'A'.toNat + 10)
  else digit? c

/-- The digits at the front of a text, and the rest. -/
def spanDigits : List Char → List Nat × List Char
  | [] => ([], [])
  | c :: rest =>
    match digit? c with
    | some d => let (ds, tail) := spanDigits rest; (d :: ds, tail)
    | none => ([], c :: rest)

/-! ### Numbers -/

/-- The largest unsigned word. -/
def maxWord : Nat := Nat.pow 2 64 - 1

/-- Appends digits to a significand as long as it fits into a word; the digits
left over are returned. -/
def absorb : Nat → List Nat → Nat × List Nat
  | s, [] => (s, [])
  | s, d :: ds => if s * 10 + d ≤ maxWord then absorb (s * 10 + d) ds else (s, d :: ds)

/-- Scales a double by a power of ten, one table step of at most 308 at a time.
None when it leaves the range of doubles. -/
def scale (f : Float) (e : Int) : Option Float :=
  if h : e < -308 then
    if f == 0 then some f else scale (f / Float.ofScientific 1 false 308) (e + 308)
  else if 308 < e then
    if f == 0 then some f else none
  else if 0 ≤ e then
    let g := f * Float.ofScientific 1 false e.toNat
    if g.isInf then none else some g
  else some (f / Float.ofScientific 1 false e.natAbs)
termination_by e.natAbs
decreasing_by omega

/-- A signed double `significand * 10 ^ e` as a number, if it is in range. -/
def realOf (negative : Bool) (significand : Nat) (e : Int) : Reading :=
  match scale significand.toUInt64.toFloat e with
  | some f => .number (.real (if negative then -f else f).toBits)
  | none => .vast

/-- A whole number: exact when it fits into a word, else a double. Minus zero is
a double, because no integer tells it from zero. -/
def wholeOf (negative : Bool) (n : Nat) : Reading :=
  if !negative then .number (.whole n)
  else if n ≤ Nat.pow 2 63 && n ≠ 0 then .number (.whole (-(n : Int)))
  else .number (.real (-(n.toUInt64.toFloat)).toBits)

/-- Largest exponent that is scaled by; beyond it only zero is in range. -/
def maxExponent : Nat := Nat.pow 2 31 - 1

/-- The exponent part after its letter: the value it gives the number, and the
rest. None when no digit follows. -/
def readExponent (negative : Bool) (significand : Nat) (start : Int) (cs : List Char) :
    Option (Reading × List Char) :=
  let (down, cs) := match cs with
    | '+' :: rest => (false, rest)
    | '-' :: rest => (true, rest)
    | _ => (false, cs)
  match spanDigits cs with
  | ([], _) => none
  | (ds, rest) =>
    let e := ds.foldl (fun n d => n * 10 + d) 0
    if maxExponent < e then
      if significand ≠ 0 && !down then some (.vast, rest)
      else some (.number (.real (if negative then (-0.0 : Float) else 0.0).toBits), rest)
    else some (realOf negative significand (if down then start - e else start + e), rest)

/-- What follows the digits of a real number: an exponent part or nothing. -/
def readScale (negative : Bool) (significand : Nat) (e : Int) (cs : List Char) :
    Option (Reading × List Char) :=
  match cs with
  | 'e' :: rest => readExponent negative significand e rest
  | 'E' :: rest => readExponent negative significand e rest
  | _ => some (realOf negative significand e, cs)

/-- A number without its sign. Digits past the capacity of a word count only
through the exponent, those of the fraction not even there. -/
def readMagnitude (negative : Bool) (cs : List Char) : Option (Reading × List Char) :=
  match spanDigits cs with
  | ([], _) => none
  | (0 :: _ :: _, _) => none
  | (ds, rest) =>
    let (significand, dropped) := absorb 0 ds
    match rest with
    | '.' :: tail =>
      match spanDigits tail with
      | ([], _) => none
      | (fs, tail) =>
        let (significand', left) := absorb significand fs
        let used := fs.length - left.length
        readScale negative significand' ((dropped.length : Int) - used) tail
    | 'e' :: _ => readScale negative significand dropped.length rest
    | 'E' :: _ => readScale negative significand dropped.length rest
    | _ =>
      if dropped.isEmpty then some (wholeOf negative significand, rest)
      else some (realOf negative significand dropped.length, rest)

/-- A number with its sign. -/
def readNumber : List Char → Option (Reading × List Char)
  | '-' :: rest => readMagnitude true rest
  | cs => readMagnitude false cs

/-! ### Strings -/

/-- Four hexadecimal digits and what follows them. -/
def readHex4 : List Char → Option (Nat × List Char)
  | a :: b :: c :: d :: rest =>
    match hexDigit? a, hexDigit? b, hexDigit? c, hexDigit? d with
    | some a, some b, some c, some d => some (((a * 16 + b) * 16 + c) * 16 + d, rest)
    | _, _, _, _ => none
  | _ => none

/-- Whether a code unit starts a surrogate pair. -/
def isLeading (n : Nat) : Bool := 0xD800 ≤ n && n ≤ 0xDBFF

/-- Whether a code unit ends a surrogate pair. -/
def isTrailing (n : Nat) : Bool := 0xDC00 ≤ n && n ≤ 0xDFFF

/-- The character with a short escape. -/
def shortEscape? (c : Char) : Option Char :=
  match c with
  | '"' => some '"'
  | '\\' => some '\\'
  | '/' => some '/'
  | 'b' => some '\x08'
  | 'f' => some '\x0c'
  | 'n' => some '\n'
  | 'r' => some '\r'
  | 't' => some '\t'
  | _ => none

/-- The code point of a surrogate pair. -/
def pairValue (high low : Nat) : Char :=
  Char.ofNat ((high - 0xD800) * 0x400 + (low - 0xDC00) + 0x10000)

/-- The rest of a string after its opening quote: its characters, whether all
surrogates are paired, and what follows the closing quote. None when the string
never ends or holds a bad escape or a bare control character. -/
def readString : Nat → List Char → Option (List Char × Bool × List Char)
  | 0, _ => none
  | _ + 1, [] => none
  | _ + 1, '"' :: rest => some ([], true, rest)
  | fuel + 1, '\\' :: 'u' :: rest => do
    let (n, rest) ← readHex4 rest
    if isLeading n then
      match rest with
      | '\\' :: 'u' :: more =>
        let (low, after) ← readHex4 more
        if isTrailing low then
          let (cs, paired, tail) ← readString fuel after
          some (pairValue n low :: cs, paired, tail)
        else
          let (cs, _, tail) ← readString fuel rest
          some (cs, false, tail)
      | _ =>
        let (cs, _, tail) ← readString fuel rest
        some (cs, false, tail)
    else if isTrailing n then
      let (cs, _, tail) ← readString fuel rest
      some (cs, false, tail)
    else
      let (cs, paired, tail) ← readString fuel rest
      some (Char.ofNat n :: cs, paired, tail)
  | fuel + 1, '\\' :: c :: rest => do
    let e ← shortEscape? c
    let (cs, paired, tail) ← readString fuel rest
    some (e :: cs, paired, tail)
  | fuel + 1, c :: rest => do
    if c.toNat < 0x20 || c = '\\' then none
    let (cs, paired, tail) ← readString fuel rest
    some (c :: cs, paired, tail)

/-! ### Values -/

/-- Checks that a text goes on with a word. -/
def readWord (word : List Char) (value : Reading) (cs : List Char) :
    Reading × Option (List Char) :=
  if word.isPrefixOf cs then (value, some (cs.drop word.length)) else (.broken, none)

mutual

/-- A value at the front of a text, blanks skipped; no rest after a fault. -/
def readValue : Nat → List Char → Reading × Option (List Char)
  | 0, _ => (.broken, none)
  | fuel + 1, cs =>
    match skipBlanks cs with
    | [] => (.broken, none)
    | 'n' :: rest => readWord "ull".toList .null rest
    | 't' :: rest => readWord "rue".toList (.bool true) rest
    | 'f' :: rest => readWord "alse".toList (.bool false) rest
    | '"' :: rest =>
      match readString (rest.length + 1) rest with
      | some (s, true, rest) => (.string (String.ofList s), some rest)
      | some (_, false, rest) => (.unpaired, some rest)
      | none => (.broken, none)
    | '[' :: rest =>
      match skipBlanks rest with
      | ']' :: rest => (.array [] true, some rest)
      | rest =>
        let (items, tail) := readItems fuel rest
        (.array items tail.isSome, tail)
    | '{' :: rest =>
      match skipBlanks rest with
      | '}' :: rest => (.object [] true, some rest)
      | rest =>
        let (entries, tail) := readEntries fuel rest
        (.object entries tail.isSome, tail)
    | c :: rest =>
      match readNumber (c :: rest) with
      | some (n, rest) => (n, some rest)
      | none => (.broken, none)

/-- The items of an array up to its closing bracket. -/
def readItems : Nat → List Char → List Reading × Option (List Char)
  | 0, _ => ([], none)
  | fuel + 1, cs =>
    match readValue fuel cs with
    | (v, none) => ([v], none)
    | (v, some rest) =>
      match skipBlanks rest with
      | ']' :: rest => ([v], some rest)
      | ',' :: rest =>
        match skipBlanks rest with
        | ']' :: _ => ([v], none)
        | rest =>
          let (items, tail) := readItems fuel rest
          (v :: items, tail)
      | _ => ([v], none)

/-- The entries of an object up to its closing brace. -/
def readEntries : Nat → List Char → List (String × Reading) × Option (List Char)
  | 0, _ => ([], none)
  | fuel + 1, cs =>
    match cs with
    | '"' :: rest =>
      match readString (rest.length + 1) rest with
      | some (key, true, rest) =>
        let key := String.ofList key
        match skipBlanks rest with
        | ':' :: rest =>
          match readValue fuel rest with
          | (v, none) => ([(key, v)], none)
          | (v, some rest) =>
            match skipBlanks rest with
            | '}' :: rest => ([(key, v)], some rest)
            | ',' :: rest =>
              let (entries, tail) := readEntries fuel (skipBlanks rest)
              ((key, v) :: entries, tail)
            | _ => ([(key, v)], none)
        | _ => ([(key, .broken)], none)
      | _ => ([], none)
    | _ => ([], none)

end

/-- A text read as one value, and whether nothing but blanks follows it. -/
def read (text : String) : Reading × Bool :=
  let cs := text.toList
  match readValue (cs.length + 1) cs with
  | (v, some rest) => (v, (skipBlanks rest).isEmpty)
  | (v, none) => (v, false)

/-! ### Between readings and values -/

/-- How deeply arrays and objects may nest in a text. -/
def maxDepth : Nat := 127

mutual

/-- The value a reading stands for, if it is whole and no deeper than `depth`. -/
def Reading.toJson? (depth : Nat) : Reading → Option Json
  | .null => some .null
  | .bool b => some (.bool b)
  | .number n => some (.number n)
  | .string s => some (.string s)
  | .array items true =>
    match depth with
    | 0 => none
    | d + 1 => (Reading.itemValues? d items).map .array
  | .object entries true =>
    match depth with
    | 0 => none
    | d + 1 => (Reading.entryValues? d entries).map ofEntries
  | _ => none

/-- The values of a list of readings. -/
def Reading.itemValues? (depth : Nat) : List Reading → Option (List Json)
  | [] => some []
  | r :: rest => do
    let v ← r.toJson? depth
    let vs ← Reading.itemValues? depth rest
    some (v :: vs)

/-- The entries of a list of read entries. -/
def Reading.entryValues? (depth : Nat) :
    List (String × Reading) → Option (List (String × Json))
  | [] => some []
  | (k, r) :: rest => do
    let v ← r.toJson? depth
    let vs ← Reading.entryValues? depth rest
    some ((k, v) :: vs)

end

mutual

/-- A value as the reading of a text that writes it. -/
def toReading : Json → Reading
  | .null => .null
  | .bool b => .bool b
  | .number n => .number n
  | .string s => .string s
  | .array items => .array (itemReadings items) true
  | .object entries => .object (entryReadings entries) true

/-- The readings of a list of values. -/
def itemReadings : List Json → List Reading
  | [] => []
  | v :: rest => toReading v :: itemReadings rest

/-- The readings of a list of entries. -/
def entryReadings : List (String × Json) → List (String × Reading)
  | [] => []
  | (k, v) :: rest => (k, toReading v) :: entryReadings rest

end

/-- The value a whole text writes. -/
def parse? (text : String) : Option Json :=
  match read text with
  | (r, true) => r.toJson? maxDepth
  | (_, false) => none

end EventWiring.Json
