import Patchbay.Decimal.Shortest
import Patchbay.Single

/-! The text of sample values: shortest digits, plain or with an exponent. -/

namespace Patchbay.Decimal

/-- How a number is laid out: the decimal exponents written plainly lie between two bounds, and a
written exponent has a least number of digits. -/
structure Layout where
  plainFrom : Int
  plainBelow : Int
  exponentDigits : Nat

/-- Sample values are plain from `1e-4` to below `1e+6`, and exponents have two digits or more. -/
def Layout.sample : Layout := ⟨-4, 6, 2⟩

/-- A run of the digit zero. -/
def zeros (count : Nat) : Bytes := List.replicate count 48

/-- Digits without an exponent. -/
def plainText (number : Digits) : Bytes :=
  let text := number.text
  let point : Int := text.length + number.exponent
  if point ≤ 0 then "0." ++ zeros (-point).toNat ++ text
  else if point < text.length then text.take point.toNat ++ "." ++ text.drop point.toNat
  else text ++ zeros (point - text.length).toNat

/-- Digits with an exponent and one digit before the point. -/
def exponentText (layout : Layout) (number : Digits) : Bytes :=
  let text := number.text
  let exponent : Int := text.length + number.exponent - 1
  let fraction : Bytes := if text.length = 1 then [] else "." ++ text.drop 1
  let sign : Bytes := if exponent < 0 then "-" else "+"
  let size := natText exponent.natAbs
  text.take 1 ++ fraction ++ "e" ++ sign ++
    zeros (layout.exponentDigits - size.length) ++ size

/-- Digits in the form that a layout asks for. -/
def Layout.text (layout : Layout) (number : Digits) : Bytes :=
  let exponent : Int := number.text.length + number.exponent - 1
  if exponent < layout.plainFrom || layout.plainBelow ≤ exponent then exponentText layout number
  else plainText number

end Patchbay.Decimal

namespace Patchbay.Single

/-- The text of a sample value: the fewest digits that read back as the same value. -/
def text (value : Single) : Bytes :=
  match value.toBinary with
  | .notANumber => "NaN"
  | .infinite negative => if negative then "-Inf" else "+Inf"
  | .finite negative mantissa exponent =>
    let sign : Bytes := if negative then "-" else []
    if mantissa = 0 then sign ++ "0"
    else
      let narrow := mantissa == 0x800000 && exponent != -149
      sign ++ Decimal.Layout.sample.text (Decimal.shortest 24 mantissa exponent narrow)

end Patchbay.Single
