import Patchbay.Decimal.Binary

/-! Numbers of fixed width: sample values, which are 32-bit floating-point numbers kept as their bit
patterns, and integers of 64 bits with a sign, whose sums wrap around. -/

namespace Patchbay

/-- A 32-bit floating-point number as its bits; the payload of a NaN and the sign of zero are
kept. -/
structure Single where
  bits : UInt32
  deriving DecidableEq, Repr, Hashable

namespace Single

/-- The positive zero. -/
def zero : Single := ⟨0⟩

instance : Inhabited Single := ⟨zero⟩

/-- The number that the bits stand for. -/
def toBinary (value : Single) : Binary :=
  let n := value.bits.toNat
  let negative := 0x80000000 ≤ n
  let exponent : Nat := n / 0x800000 % 256
  let fraction : Nat := n % 0x800000
  if exponent = 255 then (if fraction = 0 then .infinite negative else .notANumber)
  else if exponent = 0 then .finite negative fraction (-149)
  else .finite negative (0x800000 + fraction) ((exponent : Int) - 150)

/-- The bits of a number that is already rounded to 32 bits. -/
def ofRounded : Binary → Single
  | .notANumber => ⟨0x7fc00000⟩
  | .infinite negative => ⟨if negative then 0xff800000 else 0x7f800000⟩
  | .finite negative mantissa exponent =>
    let magnitude :=
      if mantissa < 0x800000 then mantissa
      else (exponent + 150).toNat * 0x800000 + (mantissa - 0x800000)
    ⟨UInt32.ofNat (if negative then 0x80000000 + magnitude else magnitude)⟩

/-- The 32-bit number nearest to a number. -/
def ofBinary (number : Binary) : Single := ofRounded (number.round .single)

end Single

/-- One more than the largest integer of 64 bits. -/
def wordLimit : Int := 0x8000000000000000

/-- Whether 64 bits hold a number. -/
def fitsWord (n : Int) : Bool := -wordLimit ≤ n && n < wordLimit

/-- The integer that 64 bits make of a number. -/
def wrapWord (n : Int) : Int := n.bmod 0x10000000000000000

/-- A number that fits is kept. -/
theorem wrapWord_eq {n : Int} (fits : fitsWord n = true) : wrapWord n = n := by
  -- The balanced remainder of a number inside the symmetric range is the number.
  have both := Bool.and_eq_true_iff.mp fits
  have low : -0x8000000000000000 ≤ n := of_decide_eq_true both.1
  have high : n < 0x8000000000000000 := of_decide_eq_true both.2
  exact Int.bmod_eq_of_le (by omega) (by omega)

end Patchbay
