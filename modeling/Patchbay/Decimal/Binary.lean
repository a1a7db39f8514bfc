/-! Binary floating-point numbers of any precision, and the correct rounding of quotients to
them. -/

namespace Patchbay

/-- A binary layout: its bits of precision, and the exponents of the last place of its smallest and
of its largest numbers, where it has such bounds. -/
structure BinaryFormat where
  precision : Nat
  least : Option Int
  greatest : Option Int

/-- Numbers of 32 bits. -/
def BinaryFormat.single : BinaryFormat := ⟨24, some (-149), some 104⟩

/-- Numbers of 64 bits. -/
def BinaryFormat.double : BinaryFormat := ⟨53, some (-1074), some 971⟩

/-- A binary number: not a number, an infinity, or a signed mantissa times a power of two. -/
inductive Binary where
  | notANumber
  | infinite (negative : Bool)
  | finite (negative : Bool) (mantissa : Nat) (exponent : Int)
  deriving DecidableEq, Repr

namespace Binary

/-- A natural number divided by a power of two, or multiplied when the power is negative: the
quotient, the remainder, and the divisor that the remainder belongs to. -/
def divideAt (numerator denominator : Nat) (exponent : Int) : Nat × Nat × Nat :=
  let n := if exponent < 0 then numerator <<< (-exponent).toNat else numerator
  let d := if exponent < 0 then denominator else denominator <<< exponent.toNat
  (n / d, n % d, d)

/-- The integer nearest to a quotient with the given remainder; a half goes to the even
neighbour. -/
def nearestEven (quotient remainder divisor : Nat) : Nat :=
  if 2 * remainder > divisor || (2 * remainder == divisor && quotient % 2 == 1) then quotient + 1
  else quotient

/-- The exponent of the last place that a positive quotient has in a layout. -/
def lastPlace (format : BinaryFormat) (numerator denominator : Nat) : Int :=
  -- The quotient has either `precision` or one more bit at the first guess.
  let guess : Int := (numerator.log2 : Int) - denominator.log2 - format.precision
  let (quotient, _, _) := divideAt numerator denominator guess
  let place := if quotient < Nat.pow 2 format.precision then guess else guess + 1
  match format.least with
  | some least => max place least
  | none => place

/-- The number of a layout nearest to a quotient; beyond the largest one it is an infinity. -/
def ofQuotient (format : BinaryFormat) (negative : Bool) (numerator denominator : Nat) : Binary :=
  if numerator = 0 then .finite negative 0 0
  else
    let place := lastPlace format numerator denominator
    let (quotient, remainder, divisor) := divideAt numerator denominator place
    let rounded := nearestEven quotient remainder divisor
    -- Rounding up to the next power of two moves the last place.
    let (mantissa, exponent) :=
      if rounded = Nat.pow 2 format.precision then (rounded / 2, place + 1) else (rounded, place)
    match format.greatest with
    | some greatest =>
      if greatest < exponent then .infinite negative else .finite negative mantissa exponent
    | none => .finite negative mantissa exponent

/-- The power of two just above `mantissa · 2 ^ exponent`. -/
def powerAbove (mantissa : Nat) (exponent : Int) : Int := exponent + mantissa.log2 + 1

/-- A mantissa times a power of two, rounded to a layout. Numbers far outside the layout's range are
settled without computing the power. -/
def ofScaled (format : BinaryFormat) (negative : Bool) (mantissa : Nat) (exponent : Int) : Binary :=
  let above := powerAbove mantissa exponent
  if mantissa = 0 || format.least.any (above < ·) then .finite negative 0 0
  else if format.greatest.any (· + format.precision < above) then .infinite negative
  else if exponent < 0 then ofQuotient format negative mantissa (1 <<< (-exponent).toNat)
  else ofQuotient format negative (mantissa <<< exponent.toNat) 1

/-- A number rounded to another layout. -/
def round (format : BinaryFormat) : Binary → Binary
  | .notANumber => .notANumber
  | .infinite negative => .infinite negative
  | .finite negative mantissa exponent => ofScaled format negative mantissa exponent

/-- An integer rounded to a layout. -/
def ofInt (format : BinaryFormat) (n : Int) : Binary :=
  ofQuotient format (n < 0) n.natAbs 1

/-- Digits times a power of ten, rounded to a layout. -/
def ofDecimal (format : BinaryFormat) (negative : Bool) (digits : Nat) (exponent : Int) : Binary :=
  if exponent < 0 then ofQuotient format negative digits (Nat.pow 10 (-exponent).toNat)
  else ofQuotient format negative (digits * Nat.pow 10 exponent.toNat) 1

/-- Whether a number is an infinity. -/
def isInfinite : Binary → Bool
  | .infinite _ => true
  | _ => false

/-- The integer part of a number, toward zero; zero when it is not finite. -/
def truncate : Binary → Int
  | .finite negative mantissa exponent =>
    let whole := if exponent < 0 then mantissa >>> (-exponent).toNat
      else mantissa <<< exponent.toNat
    if negative then -(whole : Int) else whole
  | _ => 0

end Binary

end Patchbay
