import Patchbay.Text.Width

/-! Texts on a terminal: columns and boxes. -/

namespace Patchbay.Screen

/-- The byte that ends a line. -/
def newline : UInt8 := 10

/-- Blanks. -/
def blanks (count : Nat) : Bytes := List.replicate count 32

/-- Tabs as four blanks, and line ends without a carriage return. -/
def settle : Bytes → Bytes
  | [] => []
  | 13 :: 10 :: rest => newline :: settle rest
  | 9 :: rest => blanks 4 ++ settle rest
  | b :: rest => b :: settle rest

/-- Lines filled with blanks up to the width of the widest. -/
def level (lines : List Bytes) : List Bytes :=
  let widest := (lines.map Text.width).foldl max 0
  lines.map fun line => line ++ blanks (widest - Text.width line)

/-- A text as a block: its lines have one width. -/
def block (text : Bytes) : Bytes :=
  Bytes.join [newline] (level (Bytes.splitOn newline (settle text)))

/-- Lines in a box with round corners and a blank on each side. -/
def box (lines : List Bytes) : Bytes :=
  let inside := level ((Bytes.splitOn newline (settle (Bytes.join [newline] lines))).map fun line =>
    blanks 1 ++ line ++ blanks 1)
  let edge := (List.replicate ((inside.map Text.width).foldl max 0) (utf8 "─")).flatten
  Bytes.join [newline] (("╭" ++ edge ++ "╮") :: inside.map (fun line => "│" ++ line ++ "│") ++
    ["╰" ++ edge ++ "╯"])

/-- A heading with a box below. -/
def titled (title : Bytes) (lines : List Bytes) : Bytes := title ++ "\n" ++ box lines ++ "\n"

/-- A text with blanks after it up to a number of characters. -/
def padRight (count : Nat) (text : Bytes) : Bytes :=
  text ++ blanks (count - (Text.glyphs text).length)

/-- A text with blanks before it up to a number of characters. -/
def padLeft (count : Nat) (text : Bytes) : Bytes :=
  blanks (count - (Text.glyphs text).length) ++ text

end Patchbay.Screen
