/-! The fewest decimal digits that read back as the same binary number. A
finite number is `m * 2 ^ q`; the reals that round to it form an interval around
it, and on each decimal grid only the two grid points next to the number can lie
inside. The coarsest grid with such a point gives the digits, and of two points
the nearer one wins. All arithmetic is exact. -/
namespace EventWiring.Json

/-- A finite binary number `mantissa * 2 ^ exponent` without its sign.
`narrowBelow` marks a power of two, whose lower neighbour is twice as near. -/
structure Binary where
  mantissa : Nat
  exponent : Int
  narrowBelow : Bool
deriving Repr, DecidableEq

/-- The magnitude that the bits of a double encode, when it is finite. -/
def Binary.ofBits (bits : UInt64) : Option Binary :=
  let fraction : Nat := bits.toNat % Nat.pow 2 52
  let biased : Nat := bits.toNat / Nat.pow 2 52 % 2048
  if biased = 2047 then none
  else if biased = 0 then some ⟨fraction, -1074, false⟩
  else some ⟨fraction + Nat.pow 2 52, (biased : Int) - 1075, fraction = 0 && 1 < biased⟩

/-- A decimal number `digits * 10 ^ exponent`. -/
structure Decimal where
  digits : Nat
  exponent : Int
deriving Repr, DecidableEq

namespace Binary

/-- The number, its rounding interval and a decimal grid on one common scale:
the number is `value / scale`, the interval runs from `low / scale` to
`high / scale`, and neighbouring grid points are `step / scale` apart. -/
structure Scaled where
  value : Nat
  low : Nat
  high : Nat
  step : Nat

/-- The number on the grid of multiples of `10 ^ e`. The factor four makes the
half distances to both neighbours whole. -/
def onGrid (b : Binary) (e : Int) : Scaled :=
  let two := Nat.pow 2 b.exponent.toNat
  let twoDown := Nat.pow 2 (-b.exponent).toNat
  let ten := Nat.pow 10 e.toNat
  let tenDown := Nat.pow 10 (-e).toNat
  let unit := two * tenDown
  { value := 4 * b.mantissa * unit
    low := (4 * b.mantissa - if b.narrowBelow then 1 else 2) * unit
    high := (4 * b.mantissa + 2) * unit
    step := 4 * ten * twoDown }

/-- Whether a scaled point reads back as the number. The ends of the interval
do exactly when the mantissa is even. -/
def readsBack (b : Binary) (g : Scaled) (point : Nat) : Bool :=
  if b.mantissa % 2 = 0 then g.low ≤ point && point ≤ g.high
  else g.low < point && point < g.high

/-- The grid point nearest to the number that reads back as it, if any. A tie
goes to the even point. -/
def nearest? (b : Binary) (e : Int) : Option Decimal :=
  let g := b.onGrid e
  let below := g.value / g.step
  let above := below + 1
  let belowOk := 0 < below && b.readsBack g (below * g.step)
  let aboveOk := b.readsBack g (above * g.step)
  let downward := g.value - below * g.step
  let upward := above * g.step - g.value
  if belowOk && aboveOk then
    let takeBelow := downward < upward || (downward = upward && below % 2 = 0)
    some ⟨if takeBelow then below else above, e⟩
  else if belowOk then some ⟨below, e⟩
  else if aboveOk then some ⟨above, e⟩
  else none

/-- Tries ever finer grids, starting at multiples of `10 ^ e`. -/
def search (b : Binary) : Nat → Int → Decimal
  | 0, e => ⟨0, e⟩
  | grids + 1, e => (b.nearest? e).getD (search b grids (e - 1))

end Binary

/-- Removes trailing zeros from the digits. -/
def Decimal.stripZeros : Nat → Decimal → Decimal
  | 0, d => d
  | fuel + 1, d =>
    if d.digits ≠ 0 && d.digits % 10 = 0 then
      Decimal.stripZeros fuel ⟨d.digits / 10, d.exponent + 1⟩
    else d

/-- The shortest decimal that reads back as a nonzero binary number. The first
grid is coarser than any double, so no shorter decimal is passed over. -/
def Binary.shortest (b : Binary) : Decimal :=
  if b.mantissa = 0 then ⟨0, 0⟩
  else
    let top : Int := ((b.mantissa.log2 : Int) + b.exponent) * 30103 / 100000 + 2
    (b.search 20 top).stripZeros 20

/-- How the text of a real number is laid out. -/
structure RealFormat where
  /-- Smallest decimal exponent written without an exponent part. -/
  positionalFrom : Int
  /-- First decimal exponent written with an exponent part. -/
  positionalBelow : Int
  /-- Fewest digits of an exponent. -/
  exponentDigits : Nat

/-- Digits padded with zeros in front to a least length. -/
def padded (width n : Nat) : List Char :=
  let ds := Nat.toDigits 10 n
  List.replicate (width - ds.length) '0' ++ ds

/-- The text of a decimal: positional while its leading digit lies in the range
of the format, scientific otherwise. A whole number keeps a final `.0`. -/
def Decimal.text (f : RealFormat) (d : Decimal) : List Char :=
  let ds := Nat.toDigits 10 d.digits
  let lead : Int := d.exponent + ds.length - 1
  if d.digits = 0 then ['0', '.', '0']
  else if f.positionalFrom ≤ lead && lead < f.positionalBelow then
    if 0 ≤ d.exponent then ds ++ List.replicate d.exponent.toNat '0' ++ ['.', '0']
    else if 0 ≤ lead then
      let whole := lead.toNat + 1
      ds.take whole ++ '.' :: ds.drop whole
    else '0' :: '.' :: (List.replicate (-lead - 1).toNat '0' ++ ds)
  else
    let sign := if lead < 0 then '-' else '+'
    let tail := match ds.drop 1 with
      | [] => []
      | rest => '.' :: rest
    ds.take 1 ++ tail ++ 'e' :: sign :: padded f.exponentDigits lead.natAbs

end EventWiring.Json
