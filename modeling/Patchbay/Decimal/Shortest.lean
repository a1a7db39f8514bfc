import Patchbay.Bytes
import Patchbay.Decimal.Binary

/-! Shortest decimals: the fewest digits that read back as the same binary number. -/

namespace Patchbay.Decimal

/-- A positive number given by its decimal digits and the power of ten of the last of them. -/
structure Digits where
  digits : Nat
  exponent : Int
  deriving DecidableEq, Repr

/-- The numbers that round to a given one, in units of a quarter of its last place: the number
itself and the two ends of the interval, which belong to it when `closed`. -/
structure Interval where
  low : Nat
  middle : Nat
  high : Nat
  unit : Int
  closed : Bool

/-- The interval around `mantissa · 2 ^ exponent`; below a power of two the gap is half as wide when
`narrow`. -/
def Interval.around (mantissa : Nat) (exponent : Int) (narrow : Bool) : Interval where
  low := if narrow then 4 * mantissa - 1 else 4 * mantissa - 2
  middle := 4 * mantissa
  high := 4 * mantissa + 2
  unit := exponent - 2
  closed := mantissa % 2 == 0

/-- A power with a possibly negative exponent, as a numerator and a denominator. -/
def powerRatio (base : Nat) (exponent : Int) : Nat × Nat :=
  if exponent < 0 then (1, Nat.pow base (-exponent).toNat) else (Nat.pow base exponent.toNat, 1)

/-- The shortest digits of an interval's number whose last place is `exponent`, if the grid of that
place has a point in the interval: the nearer of the two neighbours, or the only one inside, and of
two equally near the even one. -/
def Interval.onGrid? (interval : Interval) (exponent : Int) : Option Digits :=
  let (twoUp, twoDown) := powerRatio 2 interval.unit
  let (tenUp, tenDown) := powerRatio 10 exponent
  -- A point `c` of the grid stands against `x` units as `c · step` against `x · scale`.
  let step := tenUp * twoDown
  let scale := twoUp * tenDown
  let below := interval.middle * scale / step
  let above := if interval.middle * scale % step = 0 then below else below + 1
  let inside (c : Nat) : Bool :=
    let point := c * step
    if interval.closed then interval.low * scale ≤ point && point ≤ interval.high * scale
    else interval.low * scale < point && point < interval.high * scale
  let downGap := interval.middle * scale - below * step
  let upGap := above * step - interval.middle * scale
  match inside below && below != 0, inside above with
  | true, true =>
    if downGap < upGap || (downGap == upGap && below % 2 == 0) then some ⟨below, exponent⟩
    else some ⟨above, exponent⟩
  | true, false => some ⟨below, exponent⟩
  | false, true => some ⟨above, exponent⟩
  | false, false => none

/-- The first grid of `places` successively finer ones that has a point in the interval. -/
def Interval.search (interval : Interval) (exponent : Int) : Nat → Digits
  | 0 => ⟨interval.middle, exponent⟩
  | places + 1 =>
    match interval.onGrid? exponent with
    | some found => found
    | none => interval.search (exponent - 1) places

/-- The shortest digits for a positive `mantissa · 2 ^ exponent` of the given precision. -/
def shortest (precision : Nat) (mantissa : Nat) (exponent : Int) (narrow : Bool) : Digits :=
  -- No decimal logarithm is off by more than one from this estimate.
  let magnitude := ((mantissa.log2 : Int) + exponent) * 30103 / 100000
  (Interval.around mantissa exponent narrow).search (magnitude + 2) (precision / 3 + 6)

/-- The decimal digits as bytes. -/
def Digits.text (number : Digits) : Bytes := utf8 (toString number.digits)

end Patchbay.Decimal
