import Patchbay.Decimal.Literal
import Patchbay.Text.Utf8

/-! Values: what a plain word means, by its spelling alone. -/

namespace Patchbay.Yaml

open Decimal (byte digit? readNumber)

/-- The value of a scalar. -/
inductive Value where
  | null
  | flag (value : Bool)
  | integer (n : Int)
  | real (number : Binary)
  | time
  | merge
  | text (text : Bytes)
  deriving DecidableEq, Repr

/-- The tags of the schema. -/
def Value.tag : Value → Bytes
  | .null => "!!null"
  | .flag _ => "!!bool"
  | .integer _ => "!!int"
  | .real _ => "!!float"
  | .time => "!!timestamp"
  | .merge => "!!merge"
  | .text _ => "!!str"

/-- Words that stand for themselves. -/
def namedValue? (word : Bytes) : Option Value :=
  let spelled (words : List String) : Bool := words.any fun other => utf8 other == word
  if spelled ["true", "True", "TRUE"] then some (.flag true)
  else if spelled ["false", "False", "FALSE"] then some (.flag false)
  else if spelled ["", "~", "null", "Null", "NULL"] then some .null
  else if spelled [".nan", ".NaN", ".NAN"] then some (.real .notANumber)
  else if spelled [".inf", ".Inf", ".INF", "+.inf", "+.Inf", "+.INF"] then
    some (.real (.infinite false))
  else if spelled ["-.inf", "-.Inf", "-.INF"] then some (.real (.infinite true))
  else if spelled ["<<"] then some .merge
  else none

/-- The value of a digit in bases up to sixteen. -/
def digitIn? (base : Nat) (b : UInt8) : Option Nat := (Decimal.hexDigit? b).filter (· < base)

/-- Reads digits of a base; there must be some. -/
def readDigits (base : Nat) (digits : Bytes) : Option Nat :=
  if digits.isEmpty then none
  else digits.foldlM (fun n b => (digitIn? base b).map (n * base + ·)) 0

/-- Reads digits after a mark of their base: two characters, or a zero for base eight. -/
def readBased : Bytes → Option Nat
  | 48 :: b :: rest =>
    match Decimal.lowerByte b with
    | 120 => readDigits 16 rest
    | 98 => readDigits 2 rest
    | 111 => readDigits 8 rest
    | _ => readDigits 8 (b :: rest)
  | digits => readDigits 10 digits

/-- A number with a sign, if it fits 64 bits. -/
def readSigned (read : Bytes → Option Nat) (text : Bytes) : Option Int :=
  let (negative, _, digits) := Decimal.splitSign text
  (read digits).bind fun n =>
    let value : Int := if negative then -n else n
    if fitsWord value then some value else none

/-- A number without a sign, if it fits 64 bits. -/
def readUnsigned (read : Bytes → Option Nat) (text : Bytes) : Option Int :=
  (read text).bind fun n => if n < 0x10000000000000000 then some (n : Int) else none

/-- An integer as it is spelled in any of the usual bases. -/
def readInt (text : Bytes) : Option Int := readSigned readBased text <|> readUnsigned readBased text

/-- Integers in base two or eight whose sign stands behind the mark of the base. -/
def readOddInt (text : Bytes) : Option Int :=
  let after (mark : String) : Option Bytes :=
    if (utf8 mark).isPrefixOf text then some (text.drop mark.length) else none
  let inBase (base : Nat) (digits : Bytes) : Option Int :=
    readSigned (readDigits base) digits <|> readUnsigned (readDigits base) digits
  ((after "0b").bind (inBase 2)) <|> ((after "0o").bind (inBase 8))

/-- Drops decimal digits, and says whether there were any. -/
def dropDigits (text : Bytes) : Bool × Bytes :=
  let rest := text.dropWhile fun b => (digit? b).isSome
  (rest.length < text.length, rest)

/-- Whether a text is nothing, or an exponent. -/
def isExponent : Bytes → Bool
  | [] => true
  | b :: rest =>
    let rest := match rest with
      | sign :: more => if sign == byte '+' || sign == byte '-' then more else rest
      | [] => []
    Decimal.lowerByte b == byte 'e' && dropDigits rest == (true, [])

/-- Whether a text has the form of a decimal number: a sign, digits with a point, an exponent. -/
def isDecimal (text : Bytes) : Bool :=
  let (_, _, unsigned) := Decimal.splitSign text
  let (whole, rest) := dropDigits unsigned
  match rest with
  | 46 :: rest =>
    let (fraction, rest) := dropDigits rest
    (whole || fraction) && isExponent rest
  | _ => whole && isExponent rest

/-- Reads one or two digits. -/
def readShort (text : Bytes) : Option (Nat × Bytes) :=
  match text with
  | a :: rest => do
    let n ← digit? a
    match rest with
    | b :: more =>
      match digit? b with
      | some m => some (n * 10 + m, more)
      | none => some (n, rest)
    | [] => some (n, [])
  | [] => none

/-- Skips one given byte. -/
def skipByte (c : Char) : Bytes → Option Bytes
  | b :: rest => if b == byte c then some rest else none
  | [] => none

/-- The number of days of a month. -/
def daysIn (year month : Nat) : Nat :=
  if month = 2 then (if year % 4 = 0 && (year % 100 ≠ 0 || year % 400 = 0) then 29 else 28)
  else if month = 4 || month = 6 || month = 9 || month = 11 then 30
  else 31

/-- Reads a date, and gives back what follows it. -/
def readDate (text : Bytes) : Option Bytes := do
  let year ← readDigits 10 (text.take 4)
  guard (4 ≤ text.length)
  let rest ← skipByte '-' (text.drop 4)
  let (month, rest) ← readShort rest
  let rest ← skipByte '-' rest
  let (day, rest) ← readShort rest
  guard (1 ≤ month && month ≤ 12 && 1 ≤ day && day ≤ daysIn year month)
  return rest

/-- Reads a time of day with an optional fraction of a second. -/
def readClock (text : Bytes) : Option Bytes := do
  let (hour, rest) ← readShort text
  let (minute, rest) ← readShort (← skipByte ':' rest)
  let (second, rest) ← readShort (← skipByte ':' rest)
  guard (hour < 24 && minute < 60 && second < 60)
  match rest with
  | 46 :: b :: more | 44 :: b :: more =>
    return if (digit? b).isSome then (dropDigits (b :: more)).2 else rest
  | _ => return rest

/-- Whether a text is a time zone: a Z or an offset. -/
def isZone (text : Bytes) : Bool :=
  match text with
  | [90] => true
  | [sign, a, b, 58, c, d] =>
    (sign == byte '+' || sign == byte '-') && (readDigits 10 [a, b]).any (· ≤ 24) &&
      (readDigits 10 [c, d]).any (· ≤ 60)
  | _ => false

/-- Whether a text is a date, alone or with a time of day. -/
def isTime (text : Bytes) : Bool :=
  match readDate text with
  | none => false
  | some [] => true
  | some (b :: rest) =>
    if b == byte 'T' || b == byte 't' then (readClock rest).any isZone
    else if b == byte ' ' then readClock (rest.dropWhile (· == byte ' ')) == some []
    else false

/-- The value of a number or a date, if a word is one. Underscores between digits do not count. -/
def numericValue? (dates : Bool) (word : Bytes) : Option Value :=
  let digits := word.filter (· != byte '_')
  if dates && isTime word then some .time
  else
    match readInt digits with
    | some n => some (.integer n)
    | none =>
      match if isDecimal digits then readNumber .double digits else none with
      | some number => some (.real number)
      | none => (readOddInt digits).map .integer

/-- The value of a word. -/
def valueOf (dates : Bool) (word : Bytes) : Value :=
  match namedValue? word with
  | some value => value
  | none =>
    let found := match word with
      | [] => none
      | b :: _ =>
        if (digit? b).isSome || b == byte '+' || b == byte '-' then numericValue? dates word
        else if b == byte '.' then (readNumber .double word).map .real
        else none
    found.getD (.text word)

/-- Whether a tag is one that says how a word is to be read. -/
def isSchemaTag (tag : Bytes) : Bool :=
  ["!!bool", "!!int", "!!float", "!!null", "!!timestamp"].any fun other => utf8 other == tag

/-- The value of a word with a tag, unless the tag does not suit it. Under a tag of its own a word
is a text. -/
def taggedValue? (tag word : Bytes) : Option Value :=
  if !isSchemaTag tag then some (.text word)
  else
    let value := valueOf (tag = utf8 "!!timestamp") word
    if value.tag = tag then some value
    else
      match value with
      | .integer n =>
        if tag = utf8 "!!float" && fitsWord n then some (.real (Binary.ofInt .double n)) else none
      | _ => none

end Patchbay.Yaml
