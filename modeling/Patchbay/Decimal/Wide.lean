import Patchbay.Decimal.General
import Patchbay.Decimal.Literal

/-! Wide numbers carry their own precision. Each result is the exact one rounded to the precision of
the wider operand, and undefined results are told apart. -/

namespace Patchbay

/-- A number and its bits of precision. The mantissa of a finite number other than zero has just as
many bits. -/
structure Wide where
  precision : Nat
  value : Binary
  deriving DecidableEq, Repr

namespace Wide

/-- The precision of numbers that are written out. -/
def written : Nat := 512

/-- The precision of numbers that count. -/
def counted : Nat := 64

/-- Numbers below this power of two are zero. -/
def leastPower : Int := -2147483648

/-- Numbers from this power of two on are infinite. -/
def greatestPower : Int := 2147483647

/-- A zero. -/
def zero (precision : Nat) (negative : Bool) : Wide := ⟨precision, .finite negative 0 0⟩

/-- An infinity. -/
def infinity (precision : Nat) (negative : Bool) : Wide := ⟨precision, .infinite negative⟩

/-- The number of bits of a positive number. -/
def bitCount (n : Nat) : Nat := n.log2 + 1

/-- The number nearest to `mantissa · 2 ^ exponent`; a half goes to the even neighbour. -/
def nearest (precision : Nat) (negative : Bool) (mantissa : Nat) (exponent : Int) : Wide :=
  let above := Binary.powerAbove mantissa exponent
  if mantissa = 0 || above < leastPower then zero precision negative
  else if greatestPower < above then infinity precision negative
  else
    let bits := bitCount mantissa
    if bits ≤ precision then
      let missing := precision - bits
      ⟨precision, .finite negative (mantissa <<< missing) (exponent - missing)⟩
    else
      let surplus := bits - precision
      let rounded :=
        Binary.nearestEven (mantissa >>> surplus) (mantissa % (1 <<< surplus)) (1 <<< surplus)
      if rounded < 1 <<< precision then ⟨precision, .finite negative rounded (exponent + surplus)⟩
      -- Rounding up to the next power of two moves the last place.
      else if above = greatestPower then infinity precision negative
      else ⟨precision, .finite negative (rounded / 2) (exponent + surplus + 1)⟩

/-- A number with another precision. -/
def withPrecision (precision : Nat) (number : Wide) : Wide :=
  match number.value with
  | .finite negative mantissa exponent => nearest precision negative mantissa exponent
  | other => ⟨precision, other⟩

/-- A number that counts. -/
def ofNat (n : Nat) : Wide := nearest counted false n 0

/-- A magnitude with a sign. -/
def signed (negative : Bool) (magnitude : Nat) : Int :=
  if negative then -(magnitude : Int) else magnitude

/-- A number with the other sign. -/
def negate (number : Wide) : Wide :=
  match number.value with
  | .notANumber => number
  | .infinite negative => infinity number.precision !negative
  | .finite negative mantissa exponent => ⟨number.precision, .finite (!negative) mantissa exponent⟩

/-- The distance of exponents from which on one summand only decides how the other is rounded. -/
def farApart : Nat := 4 * written

/-- The sum of a number and one that is smaller by far: only the side that the second stands on
matters. -/
def addFar (precision : Nat) (negative : Bool) (mantissa : Nat) (exponent : Int) (toward : Bool) :
    Wide :=
  let shift := 2 * written
  let double := 2 * (mantissa <<< shift)
  nearest precision negative (if toward then double - 1 else double + 1) (exponent - shift - 1)

/-- The sum of two finite numbers. A zero sum is negative only when both are. -/
def addFinite (precision : Nat) (n : Bool) (m : Nat) (e : Int) (n' : Bool) (m' : Nat) (e' : Int) :
    Wide :=
  if m = 0 && m' = 0 then zero precision (n && n')
  else if m' = 0 then nearest precision n m e
  else if m = 0 then nearest precision n' m' e'
  else if farApart < e - e' then addFar precision n m e (n != n')
  else if farApart < e' - e then addFar precision n' m' e' (n != n')
  else
    let place := min e e'
    let sum := signed n (m <<< (e - place).toNat) + signed n' (m' <<< (e' - place).toNat)
    nearest precision (sum < 0) sum.natAbs place

/-- The sum of two numbers; opposite infinities have none. -/
def add (a b : Wide) : Option Wide :=
  let precision := max a.precision b.precision
  match a.value, b.value with
  | .finite n m e, .finite n' m' e' => some (addFinite precision n m e n' m' e')
  | .infinite n, .infinite n' => if n = n' then some (infinity precision n) else none
  | .infinite n, .finite _ _ _ => some (infinity precision n)
  | .finite _ _ _, .infinite n => some (infinity precision n)
  | _, _ => none

/-- The difference of two numbers. -/
def subtract (a b : Wide) : Option Wide := add a (negate b)

/-- The product of two numbers with a given precision; zero times an infinity has none. -/
def product (precision : Nat) (a b : Wide) : Option Wide :=
  match a.value, b.value with
  | .finite n m e, .finite n' m' e' => some (nearest precision (n != n') (m * m') (e + e'))
  | .infinite n, .infinite n' => some (infinity precision (n != n'))
  | .infinite n, .finite n' m _ => if m = 0 then none else some (infinity precision (n != n'))
  | .finite n m _, .infinite n' => if m = 0 then none else some (infinity precision (n != n'))
  | _, _ => none

/-- The bits of a number without those at its end that are zero, where at most `limit` are looked
at. -/
def significantBits : Nat → Nat → Nat
  | 0, n => bitCount n
  | limit + 1, n => if n % 2 = 0 then significantBits limit (n / 2) else bitCount n

/-- The least precision that keeps a number. -/
def leastPrecision (number : Wide) : Nat :=
  match number.value with
  | .finite _ mantissa _ => if mantissa = 0 then 0 else significantBits (bitCount mantissa) mantissa
  | _ => 0

/-- The product of two numbers, which keeps more bits than its factors where it needs them. -/
def multiply (a b : Wide) : Option Wide :=
  (product written a b).map fun result =>
    result.withPrecision (max (max a.precision b.precision) result.leastPrecision)

/-- The quotient of two finite numbers, the second of which is not zero. -/
def divideFinite (precision : Nat) (negative : Bool) (m : Nat) (e : Int) (m' : Nat) (e' : Int) :
    Wide :=
  let shift := precision + bitCount m' + 2
  let numerator := m <<< shift
  -- One more bit tells whether the quotient is exact.
  let quotient := 2 * (numerator / m') + (if numerator % m' = 0 then 0 else 1)
  nearest precision negative quotient (e - e' - shift - 1)

/-- The quotient of two numbers with a given precision; it is infinite when only the divisor is
zero. -/
def quotient (precision : Nat) (a b : Wide) : Option Wide :=
  match a.value, b.value with
  | .finite n m e, .finite n' m' e' =>
    if m' = 0 then (if m = 0 then none else some (infinity precision (n != n')))
    else some (divideFinite precision (n != n') m e m' e')
  | .infinite n, .finite n' _ _ => some (infinity precision (n != n'))
  | .finite n _ _, .infinite n' => some (zero precision (n != n'))
  | _, _ => none

/-- The quotient of two numbers. -/
def divide (a b : Wide) : Option Wide := quotient (max a.precision b.precision) a b

/-- The integer part of a number, toward zero; an infinity has none. -/
def whole (precision : Nat) (number : Wide) : Option Wide :=
  match number.value with
  | .finite negative mantissa exponent =>
    if 0 ≤ exponent then some (nearest precision negative mantissa exponent)
    else
      let kept := mantissa >>> (-exponent).toNat
      some (if kept = 0 then zero precision false else nearest precision negative kept 0)
  | _ => none

/-- Whether a number is a zero. -/
def isZero (number : Wide) : Bool :=
  match number.value with
  | .finite _ mantissa _ => mantissa == 0
  | _ => false

/-- What a division toward zero leaves, with the precision of the dividend. Nothing is taken off
when the divisor is zero. -/
def remainder (a b : Wide) : Option Wide :=
  if b.isZero then some a
  else do
    let times ← whole a.precision (← divide a b)
    let taken ← product a.precision b times
    return (← subtract a taken).withPrecision a.precision

/-- The order of two positive finite numbers. -/
def compareFinite (m : Nat) (e : Int) (m' : Nat) (e' : Int) : Ordering :=
  let above := Binary.powerAbove m e
  let above' := Binary.powerAbove m' e'
  if above < above' then .lt
  else if above' < above then .gt
  else
    let place := min e e'
    Ord.compare (m <<< (e - place).toNat) (m' <<< (e' - place).toNat)

/-- The order of two numbers; the two zeros are equal. -/
def compare (a b : Wide) : Ordering :=
  match a.value, b.value with
  | .finite n m e, .finite n' m' e' =>
    if m = 0 && m' = 0 then .eq
    else if m = 0 then (if n' then .gt else .lt)
    else if m' = 0 then (if n then .lt else .gt)
    else if n != n' then (if n then .lt else .gt)
    else if n then compareFinite m' e' m e
    else compareFinite m e m' e'
  | .infinite n, .infinite n' => if n = n' then .eq else if n then .lt else .gt
  | .infinite n, _ => if n then .lt else .gt
  | _, .infinite n => if n then .gt else .lt
  | _, _ => .eq

/-- The fewest digits that read back as a positive number of a precision. -/
def digits (precision : Nat) (mantissa : Nat) (exponent : Int) : Decimal.Digits :=
  Decimal.shortest precision mantissa exponent false

/-- Whether two numbers are written alike; the two zeros count as one. -/
def same (a b : Wide) : Bool :=
  if a.precision = b.precision then compare a b == .eq
  else
    match a.value, b.value with
    | .finite n m e, .finite n' m' e' =>
      if m = 0 || m' = 0 then m == m'
      else n == n' && (Binary.powerAbove m e - Binary.powerAbove m' e').natAbs ≤ 1 &&
        digits a.precision m e == digits b.precision m' e'
    | .infinite n, .infinite n' => n == n'
    | _, _ => false

/-- The fewest digits that read back as the same number, without an exponent. -/
def text (number : Wide) : Bytes :=
  match number.value with
  | .notANumber => "NaN"
  | .infinite negative => if negative then "-Inf" else "+Inf"
  | .finite negative mantissa exponent =>
    let sign : Bytes := if negative then "-" else []
    if mantissa = 0 then sign ++ "0"
    else sign ++ Decimal.plainText (digits number.precision mantissa exponent)

/-- The 64-bit integer that a number is. -/
def word? (number : Wide) : Option Int :=
  match number.value with
  | .finite negative mantissa exponent =>
    if mantissa = 0 then some 0
    else if 64 < Binary.powerAbove mantissa exponent || Binary.powerAbove mantissa exponent < 1 then
      none
    else
      let divisor := 1 <<< (-exponent).toNat
      if mantissa % divisor ≠ 0 then none
      else
        let size := (mantissa <<< exponent.toNat) / divisor
        let n := signed negative size
        if fitsWord n then some n else none
  | _ => none

/-- The product of two positive numbers. -/
def scale (precision : Nat) (a b : Wide) : Wide :=
  (product precision a b).getD (infinity precision false)

/-- The precision of powers of five. -/
def powerPrecision : Nat := written + 64

/-- A number times a power given by the squares of its base that go into it, where `square` is the
next one. -/
def powerFrom : Nat → Wide → Wide → Nat → Wide
  | 0, result, _, _ => result
  | steps + 1, result, square, n =>
    if n = 0 then result
    else
      let result := if n % 2 = 1 then scale powerPrecision result square else result
      powerFrom steps result (scale (powerPrecision + 64) square square) (n / 2)

/-- A power of five, rounded after each step of its computation. -/
def powerOfFive (n : Nat) : Wide :=
  let exact := min n 27
  powerFrom 64 (nearest powerPrecision false (Nat.pow 5 exact) 0)
    (nearest (powerPrecision + 64) false 5 0) (n - exact)

/-- Digits times a power of five and a power of two; `none` when the power of two is out of
range. -/
def ofParts (negative : Bool) (mantissa : Nat) (fives twos : Int) : Option Wide :=
  let above := Binary.powerAbove mantissa twos
  if mantissa = 0 then some (zero written negative)
  else if above < leastPower || greatestPower < above then none
  else
    let exact : Wide := ⟨bitCount mantissa, .finite negative mantissa twos⟩
    if fives = 0 then some (exact.withPrecision written)
    else if fives < 0 then quotient written exact (powerOfFive (-fives).toNat)
    else product written exact (powerOfFive fives.toNat)

/-- Reads a whole text as a number: digits with a point, and an exponent of ten or of two. -/
def read (text : Bytes) : Option Wide := do
  let (negative, _, body) := Decimal.splitSign text
  if body = utf8 "Inf" || body = utf8 "inf" then return infinity written negative
  if text.contains (Decimal.byte '_') then none
  let (mantissa, rest) := Decimal.readMantissa 10 Decimal.digit? ⟨0, 0, false, false⟩ body
  if !mantissa.hasDigit then none
  let point : Int := -mantissa.fraction
  match rest with
  | [] => ofParts negative mantissa.value point point
  | mark :: digits =>
    let exponent ← Decimal.readWord digits
    if Decimal.lowerByte mark = Decimal.byte 'e' then
      ofParts negative mantissa.value (point + exponent) (point + exponent)
    else if Decimal.lowerByte mark = Decimal.byte 'p' then
      ofParts negative mantissa.value point (point + exponent)
    else none

end Wide

end Patchbay
