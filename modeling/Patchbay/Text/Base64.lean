import Patchbay.Bytes

/-! Data written with sixty-four characters, four of them for three bytes. -/

namespace Patchbay.Text

/-- The value of a character. -/
def base64Digit? (b : UInt8) : Option Nat :=
  let n := b.toNat
  if 65 ≤ n && n ≤ 90 then some (n - 65)
  else if 97 ≤ n && n ≤ 122 then some (n - 71)
  else if 48 ≤ n && n ≤ 57 then some (n + 4)
  else if n = 43 then some 62
  else if n = 47 then some 63
  else none

/-- Reads groups of four characters, the last of which may be filled up with equal signs. -/
def base64Groups : Bytes → Option Bytes
  | [] => some []
  | [a, b, 61, 61] => do
    let n := (← base64Digit? a) * 64 + (← base64Digit? b)
    return [UInt8.ofNat (n / 16)]
  | [a, b, c, 61] => do
    let n := ((← base64Digit? a) * 64 + (← base64Digit? b)) * 64 + (← base64Digit? c)
    return [UInt8.ofNat (n / 1024), UInt8.ofNat (n / 4)]
  | a :: b :: c :: d :: rest => do
    let n := (((← base64Digit? a) * 64 + (← base64Digit? b)) * 64 + (← base64Digit? c)) * 64 +
      (← base64Digit? d)
    let more ← base64Groups rest
    return UInt8.ofNat (n / 65536) :: UInt8.ofNat (n / 256) :: UInt8.ofNat n :: more
  | _ => none

/-- The data that a text stands for. Line ends do not count. -/
def decodeBase64 (text : Bytes) : Option Bytes :=
  base64Groups (text.filter fun b => b != 10 && b != 13)

end Patchbay.Text
