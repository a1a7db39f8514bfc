import Patchbay.Text.Cluster

/-! How many cells of a terminal a text takes. Escape sequences take none. -/

namespace Patchbay.Text

/-- The pictographs that are shown wide unless something else is asked for. -/
def emojiRanges : List (Nat × Nat) := [
  (0x231A, 0x231B), (0x23E9, 0x23EC), (0x23F0, 0x23F0), (0x23F3, 0x23F3), (0x25FD, 0x25FE),
  (0x2614, 0x2615), (0x2648, 0x2653), (0x267F, 0x267F), (0x2693, 0x2693), (0x26A1, 0x26A1),
  (0x26AA, 0x26AB), (0x26BD, 0x26BE), (0x26C4, 0x26C5), (0x26CE, 0x26CE), (0x26D4, 0x26D4),
  (0x26EA, 0x26EA), (0x26F2, 0x26F3), (0x26F5, 0x26F5), (0x26FA, 0x26FA), (0x26FD, 0x26FD),
  (0x2705, 0x2705), (0x270A, 0x270B), (0x2728, 0x2728), (0x274C, 0x274C), (0x274E, 0x274E),
  (0x2753, 0x2755), (0x2757, 0x2757), (0x2795, 0x2797), (0x27B0, 0x27B0), (0x27BF, 0x27BF),
  (0x2B1B, 0x2B1C), (0x2B50, 0x2B50), (0x2B55, 0x2B55), (0x1F004, 0x1F004), (0x1F0CF, 0x1F0CF),
  (0x1F18E, 0x1F18E), (0x1F191, 0x1F19A), (0x1F1E6, 0x1F1FF), (0x1F201, 0x1F201),
  (0x1F21A, 0x1F21A), (0x1F22F, 0x1F22F), (0x1F232, 0x1F236), (0x1F238, 0x1F23A),
  (0x1F250, 0x1F251), (0x1F300, 0x1F320), (0x1F32D, 0x1F335), (0x1F337, 0x1F37C),
  (0x1F37E, 0x1F393), (0x1F3A0, 0x1F3CA), (0x1F3CF, 0x1F3D3), (0x1F3E0, 0x1F3F0),
  (0x1F3F4, 0x1F3F4), (0x1F3F8, 0x1F43E), (0x1F440, 0x1F440), (0x1F442, 0x1F4FC),
  (0x1F4FF, 0x1F53D), (0x1F54B, 0x1F54E), (0x1F550, 0x1F567), (0x1F57A, 0x1F57A),
  (0x1F595, 0x1F596), (0x1F5A4, 0x1F5A4), (0x1F5FB, 0x1F64F), (0x1F680, 0x1F6C5),
  (0x1F6CC, 0x1F6CC), (0x1F6D0, 0x1F6D2), (0x1F6D5, 0x1F6D7), (0x1F6DC, 0x1F6DF),
  (0x1F6EB, 0x1F6EC), (0x1F6F4, 0x1F6FC), (0x1F7E0, 0x1F7EB), (0x1F7F0, 0x1F7F0),
  (0x1F90C, 0x1F93A), (0x1F93C, 0x1F945), (0x1F947, 0x1F9FF), (0x1FA70, 0x1FA7C),
  (0x1FA80, 0x1FA88), (0x1FA90, 0x1FABD), (0x1FABF, 0x1FAC5), (0x1FACE, 0x1FADB),
  (0x1FAE0, 0x1FAE8), (0x1FAF0, 0x1FAF8)]

/-- The other characters that take two cells. -/
def wideRanges : List (Nat × Nat) := [
  (0x1100, 0x115F), (0x231A, 0x231B), (0x2329, 0x232A), (0x23E9, 0x23EC), (0x23F0, 0x23F0),
  (0x23F3, 0x23F3), (0x25FD, 0x25FE), (0x2614, 0x2615), (0x2648, 0x2653), (0x267F, 0x267F),
  (0x2693, 0x2693), (0x26A1, 0x26A1), (0x26AA, 0x26AB), (0x26BD, 0x26BE), (0x26C4, 0x26C5),
  (0x26CE, 0x26CE), (0x26D4, 0x26D4), (0x26EA, 0x26EA), (0x26F2, 0x26F3), (0x26F5, 0x26F5),
  (0x26FA, 0x26FA), (0x26FD, 0x26FD), (0x2705, 0x2705), (0x270A, 0x270B), (0x2728, 0x2728),
  (0x274C, 0x274C), (0x274E, 0x274E), (0x2753, 0x2755), (0x2757, 0x2757), (0x2795, 0x2797),
  (0x27B0, 0x27B0), (0x27BF, 0x27BF), (0x2B1B, 0x2B1C), (0x2B50, 0x2B50), (0x2B55, 0x2B55),
  (0x2E80, 0x2E99), (0x2E9B, 0x2EF3), (0x2F00, 0x2FD5), (0x2FF0, 0x2FFB), (0x3000, 0x303E),
  (0x3041, 0x3096), (0x3099, 0x30FF), (0x3105, 0x312F), (0x3131, 0x318E), (0x3190, 0x31E3),
  (0x31F0, 0x321E), (0x3220, 0x3247), (0x3250, 0x4DBF), (0x4E00, 0xA48C), (0xA490, 0xA4C6),
  (0xA960, 0xA97C), (0xAC00, 0xD7A3), (0xF900, 0xFAFF), (0xFE10, 0xFE19), (0xFE30, 0xFE52),
  (0xFE54, 0xFE66), (0xFE68, 0xFE6B), (0xFF01, 0xFF60), (0xFFE0, 0xFFE6), (0x16FE0, 0x16FE4),
  (0x16FF0, 0x16FF1), (0x17000, 0x187F7), (0x18800, 0x18CD5), (0x18D00, 0x18D08),
  (0x1AFF0, 0x1AFF3), (0x1AFF5, 0x1AFFB), (0x1AFFD, 0x1AFFE), (0x1B000, 0x1B122),
  (0x1B132, 0x1B132), (0x1B150, 0x1B152), (0x1B155, 0x1B155), (0x1B164, 0x1B167),
  (0x1B170, 0x1B2FB), (0x1F004, 0x1F004), (0x1F0CF, 0x1F0CF), (0x1F18E, 0x1F18E),
  (0x1F191, 0x1F19A), (0x1F200, 0x1F202), (0x1F210, 0x1F23B), (0x1F240, 0x1F248),
  (0x1F250, 0x1F251), (0x1F260, 0x1F265), (0x1F300, 0x1F320), (0x1F32D, 0x1F335),
  (0x1F337, 0x1F37C), (0x1F37E, 0x1F393), (0x1F3A0, 0x1F3CA), (0x1F3CF, 0x1F3D3),
  (0x1F3E0, 0x1F3F0), (0x1F3F4, 0x1F3F4), (0x1F3F8, 0x1F43E), (0x1F440, 0x1F440),
  (0x1F442, 0x1F4FC), (0x1F4FF, 0x1F53D), (0x1F54B, 0x1F54E), (0x1F550, 0x1F567),
  (0x1F57A, 0x1F57A), (0x1F595, 0x1F596), (0x1F5A4, 0x1F5A4), (0x1F5FB, 0x1F64F),
  (0x1F680, 0x1F6C5), (0x1F6CC, 0x1F6CC), (0x1F6D0, 0x1F6D2), (0x1F6D5, 0x1F6D7),
  (0x1F6DC, 0x1F6DF), (0x1F6EB, 0x1F6EC), (0x1F6F4, 0x1F6FC), (0x1F7E0, 0x1F7EB),
  (0x1F7F0, 0x1F7F0), (0x1F90C, 0x1F93A), (0x1F93C, 0x1F945), (0x1F947, 0x1F9FF),
  (0x1FA70, 0x1FA7C), (0x1FA80, 0x1FA88), (0x1FA90, 0x1FABD), (0x1FABF, 0x1FAC5),
  (0x1FACE, 0x1FADB), (0x1FAE0, 0x1FAE8), (0x1FAF0, 0x1FAF8), (0x20000, 0x2FFFD),
  (0x30000, 0x3FFFD)]

/-- The mark that asks for the narrow form of a pictograph. -/
def narrowMark : Char := '\ufe0e'

/-- The mark that asks for the wide form of a pictograph. -/
def wideMark : Char := '\ufe0f'

/-- The cells of a character that stands alone. -/
def cellsOfChar (c : Char) : Nat :=
  match clusterClassOf c.toNat with
  | .control | .carriageReturn | .lineFeed | .extend | .joiner => 0
  | .flag => 2
  | .picture => if inRanges emojiRanges c.toNat then 2 else 1
  | _ =>
    if c.toNat = 0x2E3A then 3
    else if c.toNat = 0x2E3B then 4
    else if inRanges wideRanges c.toNat then 2
    else 1

/-- The cells of a glyph that stands alone; a stray byte takes one. -/
def cellsOfGlyph : Glyph → Nat
  | .char c => cellsOfChar c
  | .stray _ => 1

/-- The cells of a pictograph and what is joined to it: the last mark that asks for a form
decides. -/
def cellsOfPicture (alone : Nat) (joined : List Glyph) : Nat :=
  joined.foldl (fun cells glyph =>
    if glyph == .char narrowMark then 1 else if glyph == .char wideMark then 2 else cells) alone

/-- The cells of a cluster: a pictograph, a flag and a syllable block take the same cells however
many characters they are made of. -/
def cellsOfCluster (first : Glyph) (joined : List Glyph) : Nat :=
  match first.clusterClass with
  | .picture => cellsOfPicture (cellsOfGlyph first) joined
  | .flag | .leading => cellsOfGlyph first
  | _ => joined.foldl (fun cells glyph => cells + cellsOfGlyph glyph) (cellsOfGlyph first)

/-- The parts of an escape sequence. -/
inductive EscapePart where
  /-- Outside of one. -/
  | ground
  /-- After the escape character. -/
  | escape
  /-- After the bytes that come before the last one of a short sequence. -/
  | middle
  /-- In the parameters of a control sequence. -/
  | parameters
  /-- After the parameters of a control sequence. -/
  | closing
  /-- In a text that only an escape character or a byte beyond ASCII ends. -/
  | message
  /-- In a text that a bell ends as well. -/
  | command
  /-- At the start of a device sequence. -/
  | device
  /-- In the parameters of a device sequence. -/
  | deviceParameters
  /-- After the parameters of a device sequence. -/
  | deviceClosing
  /-- In the text of a device sequence. -/
  | deviceText
  deriving DecidableEq, Repr

namespace EscapePart

/-- The part that a byte from `0x80` on leads to, where no text takes it. -/
def begin (b : UInt8) : EscapePart :=
  if b = 0x9B then .parameters
  else if b = 0x9D then .command
  else if b = 0x90 then .device
  else if b = 0x98 || b = 0x9E || b = 0x9F then .message
  else .ground

/-- The part that a control character leads to. -/
def control (part : EscapePart) (b : UInt8) : EscapePart :=
  if b = 0x18 || b = 0x1A then .ground
  else if b = 0x1B then if part = .device then .deviceText else .escape
  else
    match part with
    | .command => if b = 0x07 then .ground else .command
    | .device => if 0x08 ≤ b && b ≤ 0x0D then .deviceText else .device
    | part => part

/-- The part that the byte after an escape character leads to. -/
def afterEscape (b : UInt8) : EscapePart :=
  if b < 0x30 then .middle
  else if b = 0x5B then .parameters
  else if b = 0x5D then .command
  else if b = 0x50 then .device
  else if b = 0x58 || b = 0x5E || b = 0x5F then .message
  else .ground

/-- The part that a byte from `0x20` to `0x7E` leads to. -/
def visible (part : EscapePart) (b : UInt8) : EscapePart :=
  match part with
  | .ground => .ground
  | .escape => afterEscape b
  | .middle => if b < 0x30 then .middle else .ground
  | .parameters => if b < 0x30 then .closing else if b < 0x40 then .parameters else .ground
  | .closing => if b < 0x30 then .closing else .ground
  | .message => .message
  | .command => .command
  | .device | .deviceParameters =>
    if b < 0x30 then .deviceClosing else if b < 0x40 then .deviceParameters else .deviceText
  | .deviceClosing => if b < 0x30 then .deviceClosing else .deviceText
  | .deviceText => .deviceText

/-- Whether a part takes bytes beyond ASCII as its own. -/
def takesAll (part : EscapePart) : Bool := part = .command || part = .deviceText

/-- The part that a byte leads to. -/
def next (part : EscapePart) (b : UInt8) : EscapePart :=
  if b < 0x20 then part.control b
  else if b < 0x7F then part.visible b
  else if b = 0x7F then part
  else if part.takesAll then if b = 0x9C then .ground else part
  else begin b

end EscapePart

/-- Whether a byte starts a character beyond ASCII. -/
def startsWide (b : UInt8) : Bool := 0xC2 ≤ b && b ≤ 0xF4

/-- The cells of what follows in a part of an escape sequence, where some bytes belong to a cluster
that is counted already. -/
def cellsFrom : EscapePart → Nat → Bytes → Nat
  | _, _, [] => 0
  | part, skip + 1, _ :: rest => cellsFrom part skip rest
  | part, 0, b :: rest =>
    if startsWide b && !part.takesAll then
      let (first, more) := firstGlyph b rest
      let joined := clusterFrom (.next .plain first.clusterClass) more rest
      cellsOfCluster first joined + cellsFrom .ground (more + byteCount joined) rest
    else
      (if part = .ground && 0x20 ≤ b && b ≤ 0x7E then 1 else 0) + cellsFrom (part.next b) 0 rest

/-- The cells of a line. -/
def width (line : Bytes) : Nat := cellsFrom .ground 0 line

end Patchbay.Text
