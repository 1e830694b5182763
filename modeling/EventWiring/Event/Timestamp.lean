import EventWiring.Text.Blank

/-! Points in time with nanoseconds, read from and written as RFC 3339 text.
Reading is lenient about blanks, signed years and the spelling of the offset;
the result is always in universal time. A leap second is kept as a fraction of
one second and more in the second before it. -/
namespace EventWiring

/-- A point in universal time: days since 1970-01-01, the second of that day,
and nanoseconds, from one billion up within a leap second. -/
structure Timestamp where
  day : Int
  second : Nat
  nanosecond : Nat
deriving DecidableEq, Repr

namespace Timestamp

/-! ### The calendar -/

/-- Whether a year of the Gregorian calendar has a leap day. -/
def isLeapYear (y : Int) : Bool :=
  y % 4 = 0 && (y % 100 ≠ 0 || y % 400 = 0)

/-- The number of days of a month. -/
def monthLength (y : Int) (m : Nat) : Nat :=
  if m = 2 then (if isLeapYear y then 29 else 28)
  else if m = 4 || m = 6 || m = 9 || m = 11 then 30
  else 31

/-- Days since 1970-01-01 of a date. Years count from March, so that the leap
day is the last of its year, in eras of 400 years. -/
def dayOfDate (y : Int) (m d : Nat) : Int :=
  let y' := if m ≤ 2 then y - 1 else y
  let era := Int.fdiv y' 400
  let yearOfEra := y' - era * 400
  let month := if 2 < m then m - 3 else m + 9
  let dayOfYear : Int := (153 * month + 2) / 5 + d - 1
  let dayOfEra := yearOfEra * 365 + yearOfEra / 4 - yearOfEra / 100 + dayOfYear
  era * 146097 + dayOfEra - 719468

/-- The year, month and day of a day number. -/
def dateOfDay (day : Int) : Int × Nat × Nat :=
  let z := day + 719468
  let era := Int.fdiv z 146097
  let dayOfEra := (z - era * 146097).toNat
  let yearOfEra := (dayOfEra - dayOfEra / 1460 + dayOfEra / 36524 - dayOfEra / 146096) / 365
  let dayOfYear := dayOfEra - (365 * yearOfEra + yearOfEra / 4 - yearOfEra / 100)
  let month := (5 * dayOfYear + 2) / 153
  let d := dayOfYear - (153 * month + 2) / 5 + 1
  let m := if month < 10 then month + 3 else month - 9
  let y := (yearOfEra : Int) + era * 400
  (if m ≤ 2 then y + 1 else y, m, d)

/-- The first and the last year that dates may have. -/
def firstYear : Int := -262143

/-- The last year that dates may have. -/
def lastYear : Int := 262142

/-! ### Writing -/

/-- A number with zeros in front to a least length. -/
def zeroPadded (width n : Nat) : List Char :=
  let ds := Nat.toDigits 10 n
  List.replicate (width - ds.length) '0' ++ ds

/-- A year: four digits, with a sign outside their range. -/
def yearText (y : Int) : List Char :=
  if 0 ≤ y && y ≤ 9999 then zeroPadded 4 y.toNat
  else (if y < 0 then '-' else '+') :: zeroPadded 4 y.natAbs

/-- A fraction of a second with none, three, six or nine digits, as few as keep
its value. -/
def fractionText (n : Nat) : List Char :=
  if n = 0 then []
  else if n % 1000000 = 0 then '.' :: zeroPadded 3 (n / 1000000)
  else if n % 1000 = 0 then '.' :: zeroPadded 6 (n / 1000)
  else '.' :: zeroPadded 9 n

/-- The RFC 3339 text of a point in time. A leap second is shown as second 60. -/
def text (t : Timestamp) : String :=
  let (y, m, d) := dateOfDay t.day
  let leap := 1000000000 ≤ t.nanosecond
  let s := t.second % 60 + if leap then 1 else 0
  let n := if leap then t.nanosecond - 1000000000 else t.nanosecond
  String.ofList (yearText y ++ '-' :: zeroPadded 2 m ++ '-' :: zeroPadded 2 d ++
    'T' :: zeroPadded 2 (t.second / 3600) ++ ':' :: zeroPadded 2 (t.second / 60 % 60) ++
    ':' :: zeroPadded 2 s ++ fractionText n ++ ['Z'])

/-! ### Reading -/

/-- Drops blanks at the front. -/
def trimStart (cs : List Char) : List Char := cs.dropWhile Text.isBlank

/-- The value of a decimal digit. -/
def digit? (c : Char) : Option Nat :=
  if '0' ≤ c && c ≤ '9' then some (c.toNat - '0'.toNat) else none

/-- At most `width` digits at the front of a text: their number, their value and
the rest. -/
def takeDigits : Nat → List Char → Nat × Nat → Nat × Nat × List Char
  | width + 1, c :: rest, (count, value) =>
    match digit? c with
    | some d => takeDigits width rest (count + 1, value * 10 + d)
    | none => (count, value, c :: rest)
  | _, cs, (count, value) => (count, value, cs)

/-- An unsigned number of one to `width` digits. -/
def number? (width : Nat) (cs : List Char) : Option (Nat × List Char) :=
  match takeDigits width cs (0, 0) with
  | (0, _, _) => none
  | (_, value, rest) => some (value, rest)

/-- A number of one or two digits between bounds, blanks skipped. -/
def bounded? (low high : Nat) (cs : List Char) : Option (Nat × List Char) := do
  let (n, rest) ← number? 2 (trimStart cs)
  if low ≤ n && n ≤ high then some (n, rest) else none

/-- A year: up to four digits, or any number of digits after a sign. -/
def year? (cs : List Char) : Option (Int × List Char) :=
  match trimStart cs with
  | '-' :: rest => (number? rest.length rest).map fun (n, tail) => (-(n : Int), tail)
  | '+' :: rest => (number? rest.length rest).map fun (n, tail) => ((n : Int), tail)
  | rest => (number? 4 rest).map fun (n, tail) => ((n : Int), tail)

/-- A mark, blanks before it skipped. -/
def mark? (c : Char) (cs : List Char) : Option (List Char) :=
  match trimStart cs with
  | d :: rest => if d = c then some rest else none
  | [] => none

/-- A date with hyphens. -/
def date? (cs : List Char) : Option ((Int × Nat × Nat) × List Char) := do
  let (y, cs) ← year? cs
  let cs ← mark? '-' cs
  let (m, cs) ← bounded? 1 12 cs
  let cs ← mark? '-' cs
  let (d, cs) ← bounded? 1 31 cs
  some ((y, m, d), cs)

/-- A fraction of a second in nanoseconds, zero when there is none. Digits past
the ninth are dropped. -/
def fraction? (cs : List Char) : Option (Nat × List Char) :=
  match cs with
  | '.' :: rest =>
    match takeDigits 9 rest (0, 0) with
    | (0, _, _) => none
    | (count, value, tail) =>
      some (value * Nat.pow 10 (9 - count), tail.dropWhile fun c => (digit? c).isSome)
  | _ => some (0, cs)

/-- A time of day with colons: second of the day and nanoseconds. Second 60 is a
leap second. -/
def time? (cs : List Char) : Option ((Nat × Nat) × List Char) := do
  let (h, cs) ← bounded? 0 23 cs
  let cs ← mark? ':' cs
  let (m, cs) ← bounded? 0 59 cs
  let cs ← mark? ':' cs
  let (s, cs) ← bounded? 0 60 cs
  let (n, cs) ← fraction? cs
  let (s, n) := if s = 60 then (59, n + 1000000000) else (s, n)
  some ((h * 3600 + m * 60 + s, n), cs)

/-- Two digits in a row, the first at most `top`. -/
def twoDigits? (top : Nat) (cs : List Char) : Option (Nat × List Char) :=
  match cs with
  | a :: b :: rest => do
    let x ← digit? a
    let y ← digit? b
    if x ≤ top then some (x * 10 + y, rest) else none
  | _ => none

/-- An offset of hours and minutes after its sign, in seconds. -/
def offsetBody? (cs : List Char) : Option (Nat × List Char) := do
  let (h, cs) ← twoDigits? 9 cs
  let (m, cs) ← twoDigits? 5 (cs.dropWhile fun c => c = ':' || Text.isBlank c)
  some (h * 3600 + m * 60, cs)

/-- Whether a text starts with the name of universal time, in any case. -/
def startsWithUtc (cs : List Char) : Bool :=
  (cs.take 3).map Char.toUpper = ['U', 'T', 'C']

/-- An offset from universal time in seconds. -/
def offset? (cs : List Char) : Option (Int × List Char) :=
  if startsWithUtc cs then some (0, cs.drop 3)
  else
    match cs with
    | 'Z' :: rest => some (0, rest)
    | 'z' :: rest => some (0, rest)
    | '+' :: rest => (offsetBody? rest).map fun (n, tail) => ((n : Int), tail)
    | '-' :: rest => (offsetBody? rest).map fun (n, tail) => (-(n : Int), tail)
    | '−' :: rest => (offsetBody? rest).map fun (n, tail) => (-(n : Int), tail)
    | _ => none

/-- Reads a point in time and moves it to universal time. -/
def parse? (text : String) : Option Timestamp := do
  let ((y, m, d), cs) ← date? text.toList
  let cs ← match cs with
    | 't' :: rest => some rest
    | 'T' :: rest => some rest
    | ' ' :: rest => some rest
    | _ => none
  let ((s, n), cs) ← time? cs
  let (offset, cs) ← offset? (trimStart cs)
  if !(trimStart cs).isEmpty then none
  else if monthLength y m < d || y < firstYear || lastYear < y then none
  else if 86400 ≤ offset.natAbs then none
  else
    let total := (s : Int) - offset
    let day := dayOfDate y m d + Int.fdiv total 86400
    let year := (dateOfDay day).1
    if year < firstYear || lastYear < year then none
    else some ⟨day, (Int.fmod total 86400).toNat, n⟩

end Timestamp

end EventWiring
