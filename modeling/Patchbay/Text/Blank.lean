import Patchbay.Text.Utf8

/-! White space: the characters of Unicode's White_Space property, and trimming by them. -/

namespace Patchbay.Text

/-- Whether a character is white space. -/
def isBlank (c : Char) : Bool :=
  let n := c.toNat
  (0x09 ≤ n && n ≤ 0x0d) || n == 0x20 || n == 0x85 || n == 0xa0 || n == 0x1680 ||
    (0x2000 ≤ n && n ≤ 0x200a) || n == 0x2028 || n == 0x2029 || n == 0x202f || n == 0x205f ||
    n == 0x3000

/-- Whether a glyph is white space; a stray byte never is. -/
def isBlankGlyph : Glyph → Bool
  | .char c => isBlank c
  | .stray _ => false

/-- A text without the white space at its start. -/
def trimStart (text : Bytes) : Bytes := ((glyphs text).dropWhile isBlankGlyph).flatMap Glyph.bytes

/-- A text without the white space at its end. -/
def trimEnd (text : Bytes) : Bytes :=
  ((glyphs text).reverse.dropWhile isBlankGlyph).reverse.flatMap Glyph.bytes

/-- A text without the white space at its two ends. -/
def trim (text : Bytes) : Bytes := trimEnd (trimStart text)

/-- Whether a text ends with the end of a line. -/
def endsLine (text : Bytes) : Bool := text.getLast? == some 10

end Patchbay.Text
