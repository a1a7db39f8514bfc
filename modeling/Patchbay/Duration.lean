import Patchbay.Decimal.Literal
import Patchbay.Text.Utf8

/-! Spans of time in nanoseconds: reading them with units, and writing them with the largest units
first. -/

namespace Patchbay

/-- A span of time in nanoseconds. -/
structure Duration where
  nanoseconds : Int
  deriving DecidableEq, Repr

namespace Duration

/-- Spans in milliseconds. -/
def milliseconds (n : Int) : Duration := ⟨n * 1000000⟩

/-- Spans in seconds. -/
def seconds (n : Int) : Duration := ⟨n * 1000000000⟩

/-- A number of smaller units as a decimal of a unit that holds `10 ^ places` of them, without the
zeros that end the fraction. -/
def decimalText (places n : Nat) : Bytes :=
  let whole := n / Nat.pow 10 places
  let digits := natText (n % Nat.pow 10 places)
  let fraction := List.replicate (places - digits.length) 48 ++ digits
  let kept := (fraction.reverse.dropWhile (· == 48)).reverse
  if kept.isEmpty || places = 0 then natText whole else natText whole ++ "." ++ kept

/-- A span below a second in its largest unit, a longer one in hours, minutes and seconds. -/
def magnitudeText (n : Nat) : Bytes :=
  if n = 0 then "0s"
  else if n < 1000 then natText n ++ "ns"
  else if n < 1000000 then decimalText 3 n ++ "µs"
  else if n < 1000000000 then decimalText 6 n ++ "ms"
  else
    let minutes := n / 60000000000
    let rest := decimalText 9 (n % 60000000000) ++ "s"
    if minutes = 0 then rest
    else if minutes < 60 then natText minutes ++ "m" ++ rest
    else natText (minutes / 60) ++ "h" ++ natText (minutes % 60) ++ "m" ++ rest

/-- A span in words. -/
def text (duration : Duration) : Bytes :=
  let size := magnitudeText duration.nanoseconds.natAbs
  if duration.nanoseconds < 0 then "-" ++ size else size

/-- The nanoseconds of a unit. -/
def unit? (name : Bytes) : Option Nat :=
  if name = utf8 "ns" then some 1
  else if name = utf8 "us" || name = utf8 "µs" || name = utf8 "μs" then some 1000
  else if name = utf8 "ms" then some 1000000
  else if name = utf8 "s" then some 1000000000
  else if name = utf8 "m" then some 60000000000
  else if name = utf8 "h" then some 3600000000000
  else none

/-- Why a text is no span. -/
inductive ReadError where
  | invalid
  | missingUnit
  | unknownUnit (name : Bytes)
  deriving DecidableEq, Repr

/-- The largest magnitude of a span. -/
def limit : Nat := 0x8000000000000000

/-- Whether a byte is a decimal digit. -/
def isDigit (b : UInt8) : Bool := 48 ≤ b && b ≤ 57

/-- The value of a run of digits. -/
def digitsValue (digits : Bytes) : Nat := digits.foldl (fun n b => n * 10 + (b.toNat - 48)) 0

/-- The digits of a fraction that are counted: as many as keep its numerator inside the limit. -/
def countedFraction : Nat → Nat → Bytes → Nat × Nat
  | value, scale, [] => (value, scale)
  | value, scale, b :: rest =>
    let next := value * 10 + (b.toNat - 48)
    if value ≤ (limit - 1) / 10 && next ≤ limit then countedFraction next (scale * 10) rest
    else (value, scale)

/-- The 64-bit number nearest to a natural number. -/
def nearDouble (n : Nat) : Nat := (Binary.ofInt .double n).truncate.toNat

/-- Nanoseconds of a fraction of a unit. The product and the quotient are rounded to 64-bit
numbers. -/
def fractionNanoseconds (value scale unit : Nat) : Nat :=
  -- The unit divided by the scale, then times the numerator, each rounded.
  let ratio := Binary.ofQuotient .double false unit scale
  match ratio with
  | .finite _ mantissa exponent =>
    let (up, down) := if exponent < 0 then (1, Nat.pow 2 (-exponent).toNat)
      else (Nat.pow 2 exponent.toNat, 1)
    (Binary.ofQuotient .double false (nearDouble value * mantissa * up) down).truncate.toNat
  | _ => 0

/-- Reads number and unit pairs, adding them to what was read; `fuel` bounds the number of pairs. -/
def readParts : Nat → Nat → Bytes → Except ReadError Nat
  | _, total, [] => .ok total
  | 0, _, _ => .error .invalid
  | fuel + 1, total, text => do
    let whole := text.takeWhile isDigit
    let afterWhole := text.dropWhile isDigit
    let (fraction, afterNumber, hasPoint) := match afterWhole with
      | 46 :: rest => (rest.takeWhile isDigit, rest.dropWhile isDigit, true)
      | _ => ([], afterWhole, false)
    let startsWell := match text with
      | b :: _ => isDigit b || b == 46
      | [] => false
    if !startsWell then throw .invalid
    let value := digitsValue whole
    if limit < value then throw .invalid
    if whole.isEmpty && (fraction.isEmpty || !hasPoint) then throw .invalid
    let name := afterNumber.takeWhile fun b => !isDigit b && b != 46
    if name.isEmpty then throw .missingUnit
    match unit? name with
    | none => throw (.unknownUnit name)
    | some unit =>
      if limit / unit < value then throw .invalid
      let (numerator, scale) := countedFraction 0 1 fraction
      let size :=
        value * unit + (if numerator = 0 then 0 else fractionNanoseconds numerator scale unit)
      if limit < size then throw .invalid
      if limit < total + size then throw .invalid
      readParts fuel (total + size) (afterNumber.drop name.length)

/-- Reads a span: an optional sign, then numbers with units; a lone zero needs none. -/
def read (text : Bytes) : Except ReadError Duration := do
  let (negative, _, body) := Decimal.splitSign text
  if body = [48] then return ⟨0⟩
  if body.isEmpty then throw .invalid
  let size ← readParts body.length 0 body
  if negative then return ⟨-(size : Int)⟩
  if limit ≤ size then throw .invalid
  return ⟨size⟩

/-- A byte inside the quotes of a complaint about a span; anything outside printable ASCII is
escaped. -/
def quoteByte (b : UInt8) : Bytes :=
  if b = 34 || b = 92 then [92, b]
  else if b < 0x20 || 0x80 ≤ b then "\\x" ++ hexText 2 b.toNat
  else [b]

/-- A text in double quotes, as complaints about spans write it. -/
def quoteText (text : Bytes) : Bytes := "\"" ++ text.flatMap quoteByte ++ "\""

/-- The complaint about a text that is no span. -/
def ReadError.message (error : ReadError) (text : Bytes) : Bytes :=
  match error with
  | .invalid => "time: invalid duration " ++ quoteText text
  | .missingUnit => "time: missing unit in duration " ++ quoteText text
  | .unknownUnit name => "time: unknown unit " ++ quoteText name ++ " in duration " ++
      quoteText text

end Duration

end Patchbay
