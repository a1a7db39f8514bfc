import Patchbay.Text.Printable
import Patchbay.Text.Utf8

/-! Quoted text: double quotes around the bytes, with escapes for all that is not printable. -/

namespace Patchbay.Text

/-- The escape of a control character that has a letter of its own. -/
def letterEscape? (n : Nat) : Option Bytes :=
  match n with
  | 7 => some "\\a"
  | 8 => some "\\b"
  | 9 => some "\\t"
  | 10 => some "\\n"
  | 11 => some "\\v"
  | 12 => some "\\f"
  | 13 => some "\\r"
  | _ => none

/-- A character inside quotes: as it stands when printable, escaped otherwise. -/
def quoteChar (c : Char) : Bytes :=
  if c = '"' then "\\\""
  else if c = '\\' then "\\\\"
  else if isPrintable c then String.utf8EncodeChar c
  else match letterEscape? c.toNat with
    | some escape => escape
    | none =>
      if c.toNat < 0x80 then "\\x" ++ hexText 2 c.toNat
      else if c.toNat < 0x10000 then "\\u" ++ hexText 4 c.toNat
      else "\\U" ++ hexText 8 c.toNat

/-- A glyph inside quotes; a stray byte is written by its number. -/
def quoteGlyph : Glyph → Bytes
  | .char c => quoteChar c
  | .stray b => "\\x" ++ hexText 2 b.toNat

/-- A text in double quotes. -/
def quote (text : Bytes) : Bytes :=
  "\"" ++ (glyphs text).flatMap quoteGlyph ++ "\""

end Patchbay.Text
