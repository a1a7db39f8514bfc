import Patchbay.Bytes

/-! Characters: their numbers, and reading bytes as UTF-8, one character or one stray byte at a
time. -/

namespace Patchbay

/-- What a position of a byte string holds: a character, or a byte that starts none. -/
inductive Glyph where
  | char (c : Char)
  | stray (b : UInt8)
  deriving DecidableEq, Repr

/-- The bytes that a glyph was read from. -/
def Glyph.bytes : Glyph → Bytes
  | .char c => String.utf8EncodeChar c
  | .stray b => [b]

namespace Text

/-- Whether a character number lies in one of some ranges. -/
def inRanges (ranges : List (Nat × Nat)) (n : Nat) : Bool :=
  ranges.any fun (low, high) => low ≤ n && n ≤ high

/-- Whether a byte continues a character. -/
def isTail (b : UInt8) : Bool := 0x80 ≤ b && b ≤ 0xBF

/-- The six low bits of a continuation byte. -/
def tailBits (b : UInt8) : Nat := b.toNat % 64

/-- A character by its number; the callers stay inside the range of characters. -/
def charOfNat (n : Nat) : Glyph := .char (Char.ofNat n)

/-- Whether two bytes start a three-byte character. -/
def opensThree (a b : UInt8) : Bool :=
  (a == 0xE0 && 0xA0 ≤ b && b ≤ 0xBF) || (a == 0xED && 0x80 ≤ b && b ≤ 0x9F) ||
    (((0xE1 ≤ a && a ≤ 0xEC) || a == 0xEE || a == 0xEF) && isTail b)

/-- Whether two bytes start a four-byte character. -/
def opensFour (a b : UInt8) : Bool :=
  (a == 0xF0 && 0x90 ≤ b && b ≤ 0xBF) || (a == 0xF4 && 0x80 ≤ b && b ≤ 0x8F) ||
    (0xF1 ≤ a && a ≤ 0xF3 && isTail b)

/-- The first glyph of a byte string and the number of bytes after the first that it takes. -/
def firstGlyph (a : UInt8) (rest : Bytes) : Glyph × Nat :=
  if a < 0x80 then (charOfNat a.toNat, 0)
  else match rest with
    | b :: more =>
      if 0xC2 ≤ a && a ≤ 0xDF && isTail b then
        (charOfNat ((a.toNat - 0xC0) * 64 + tailBits b), 1)
      else match more with
        | c :: final =>
          if opensThree a b && isTail c then
            (charOfNat ((a.toNat - 0xE0) * 4096 + tailBits b * 64 + tailBits c), 2)
          else match final with
            | d :: _ =>
              if opensFour a b && isTail c && isTail d then
                (charOfNat ((a.toNat - 0xF0) * 262144 + tailBits b * 4096 + tailBits c * 64 +
                  tailBits d), 3)
              else (.stray a, 0)
            | [] => (.stray a, 0)
        | [] => (.stray a, 0)
    | [] => (.stray a, 0)

/-- The number of bytes of a character by its first byte, were all bytes after it right. -/
def leadWidth? (b : UInt8) : Option Nat :=
  if b < 0x80 then some 1
  else if b < 0xC0 then none
  else if b < 0xE0 then some 2
  else if b < 0xF0 then some 3
  else if b < 0xF8 then some 4
  else none

/-- The glyphs of a byte string, skipping first the given number of bytes already read. -/
def glyphsFrom : Nat → Bytes → List Glyph
  | _, [] => []
  | skip + 1, _ :: rest => glyphsFrom skip rest
  | 0, a :: rest =>
    let (glyph, more) := firstGlyph a rest
    glyph :: glyphsFrom more rest

/-- The glyphs of a byte string in order. -/
def glyphs (bytes : Bytes) : List Glyph := glyphsFrom 0 bytes

/-- The characters of a byte string, when it is valid UTF-8. -/
def chars? (bytes : Bytes) : Option (List Char) :=
  (glyphs bytes).mapM fun
    | .char c => some c
    | .stray _ => none

/-- The UTF-8 bytes of a list of characters. -/
def ofChars (cs : List Char) : Bytes := cs.flatMap String.utf8EncodeChar

end Text

end Patchbay
