import Patchbay.Bytes
import Patchbay.Single

/-! Number literals: signed decimal or hexadecimal digits with a point and an exponent, infinities
and NaN. Underscores may stand between digits. -/

namespace Patchbay.Decimal

/-- The byte of an ASCII character. -/
def byte (c : Char) : UInt8 := UInt8.ofNat c.toNat

/-- An ASCII letter in lower case, any other byte unchanged. -/
def lowerByte (b : UInt8) : UInt8 := if 65 ≤ b && b ≤ 90 then b + 32 else b

/-- The value of a decimal digit. -/
def digit? (b : UInt8) : Option Nat :=
  if 48 ≤ b && b ≤ 57 then some (b.toNat - 48) else none

/-- The value of a hexadecimal digit. -/
def hexDigit? (b : UInt8) : Option Nat :=
  match digit? b with
  | some d => some d
  | none =>
    let l := lowerByte b
    if 97 ≤ l && l ≤ 102 then some (l.toNat - 87) else none

/-- What has been read of the digits before the exponent. -/
structure Mantissa where
  value : Nat
  fraction : Nat
  hasDigit : Bool
  hasPoint : Bool

/-- Reads digits, underscores and at most one point, and gives back what follows. -/
def readMantissa (base : Nat) (valueOf : UInt8 → Option Nat) : Mantissa → Bytes → Mantissa × Bytes
  | read, [] => (read, [])
  | read, b :: rest =>
    if b = byte '_' then readMantissa base valueOf read rest
    else if b = byte '.' then
      if read.hasPoint then (read, b :: rest)
      else readMantissa base valueOf { read with hasPoint := true } rest
    else match valueOf b with
      | some d =>
        let fraction := if read.hasPoint then read.fraction + 1 else read.fraction
        readMantissa base valueOf ⟨read.value * base + d, fraction, true, read.hasPoint⟩ rest
      | none => (read, b :: rest)

/-- Exponents beyond this size are not distinguished: the number is then zero or infinite anyway. -/
def exponentLimit : Nat := 10000

/-- Reads the digits of an exponent to the end of the text. -/
def readExponent : Nat → Bytes → Option Nat
  | read, [] => some read
  | read, b :: rest =>
    if b = byte '_' then readExponent read rest
    else match digit? b with
      | some d => readExponent (if read < exponentLimit then read * 10 + d else read) rest
      | none => none

/-- A sign and the digits after it, which must start with a digit. -/
def readSignedExponent (text : Bytes) : Option Int := do
  let (negative, digits) := match text with
    | b :: rest =>
      if b = byte '-' then (true, rest) else if b = byte '+' then (false, rest) else (false, text)
    | [] => (false, text)
  let first ← digits.head?
  let _ ← digit? first
  let size ← readExponent 0 digits
  return if negative then -(size : Int) else size

/-- What the last character was, for the placing of underscores. -/
inductive Neighbour where
  | start
  | digit
  | underscore
  | other
  deriving DecidableEq

/-- Whether each underscore stands between two digits, a base mark counting as a digit. -/
def underscoresFrom (isDigit : UInt8 → Bool) : Neighbour → Bytes → Bool
  | last, [] => last != .underscore
  | last, b :: rest =>
    if isDigit b then underscoresFrom isDigit .digit rest
    else if b = byte '_' then last == .digit && underscoresFrom isDigit .underscore rest
    else last != .underscore && underscoresFrom isDigit .other rest

/-- Whether the underscores of an unsigned literal are well placed. -/
def underscoresPlaced : Bytes → Bool
  | 48 :: mark :: rest =>
    let l := lowerByte mark
    if l = byte 'x' then underscoresFrom (fun b => (hexDigit? b).isSome) .digit rest
    else if l = byte 'b' || l = byte 'o' then
      underscoresFrom (fun b => (digit? b).isSome) .digit rest
    else underscoresFrom (fun b => (digit? b).isSome) .start (48 :: mark :: rest)
  | text => underscoresFrom (fun b => (digit? b).isSome) .start text

/-- An unsigned literal as a numerator power: digits, base of the exponent and the exponent. -/
inductive Magnitude where
  | decimal (digits : Nat) (exponent : Int)
  | binary (mantissa : Nat) (exponent : Int)

/-- Reads an unsigned decimal or hexadecimal literal. -/
def readMagnitude (text : Bytes) : Option Magnitude := do
  let hexadecimal := match text with
    | zero :: mark :: _ :: _ => zero == 48 && lowerByte mark == byte 'x'
    | _ => false
  let empty : Mantissa := ⟨0, 0, false, false⟩
  let (read, rest) :=
    if hexadecimal then readMantissa 16 hexDigit? empty (text.drop 2)
    else readMantissa 10 digit? empty text
  if !read.hasDigit then none
  let mark := byte (if hexadecimal then 'p' else 'e')
  let exponent ← match rest with
    | [] => if hexadecimal then none else some 0
    | b :: digits => if lowerByte b = mark then readSignedExponent digits else none
  if text.contains (byte '_') && !underscoresPlaced text then none
  if hexadecimal then return .binary read.value (exponent - 4 * read.fraction)
  else return .decimal read.value (exponent - read.fraction)

/-- The number of decimal digits of a natural number. -/
def digitCount (n : Nat) : Nat := (toString n).length

/-- A magnitude rounded to a layout. Magnitudes far outside the layout's range are settled without
computing the power. -/
def Magnitude.round (format : BinaryFormat) (negative : Bool) : Magnitude → Binary
  | .decimal digits exponent =>
    let point := (digitCount digits : Int) + exponent
    if digits = 0 then .finite negative 0 0
    else if format.greatest.isSome && 310 < point then .infinite negative
    else if format.least.isSome && point < -330 then .finite negative 0 0
    else .ofDecimal format negative digits exponent
  | .binary mantissa exponent =>
    let size := (mantissa.log2 : Int) + exponent
    if mantissa = 0 then .finite negative 0 0
    else if format.greatest.isSome && 1100 < size then .infinite negative
    else if format.least.isSome && size < -1200 then .finite negative 0 0
    else .ofScaled format negative mantissa exponent

/-- A literal without its sign, and whether it was negative or had a sign at all. -/
def splitSign (text : Bytes) : Bool × Bool × Bytes :=
  match text with
  | b :: rest =>
    if b = byte '-' then (true, true, rest)
    else if b = byte '+' then (false, true, rest)
    else (false, false, text)
  | [] => (false, false, text)

/-- Reads a whole text as a number of a layout; a number beyond the largest one is refused. -/
def readNumber (format : BinaryFormat) (text : Bytes) : Option Binary :=
  let (negative, signed, body) := splitSign text
  let word := body.map lowerByte
  if word = utf8 "inf" || word = utf8 "infinity" then some (.infinite negative)
  else if !signed && word = utf8 "nan" then some .notANumber
  else do
    let magnitude ← readMagnitude body
    let number := magnitude.round format negative
    if number.isInfinite then none else some number

/-- Reads a whole text as a sample value. -/
def readSingle (text : Bytes) : Option Single :=
  (readNumber .single text).map Single.ofRounded

/-- Reads a whole text as a decimal integer with an optional sign, of any size. -/
def readInteger (text : Bytes) : Option Int := do
  let (negative, _, body) := splitSign text
  if body.isEmpty then none
  let size : Nat ← body.foldlM (fun n b => (digit? b).map (n * 10 + ·)) 0
  return if negative then -(size : Int) else size

/-- Reads a whole text as a decimal integer that fits 64 bits. -/
def readWord (text : Bytes) : Option Int := (readInteger text).filter fitsWord

end Patchbay.Decimal
