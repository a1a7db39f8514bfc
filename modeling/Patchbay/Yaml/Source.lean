import Patchbay.Text.Utf8

/-! Reading the bytes of a text piece by piece. A byte that is no part of a text is met only when
its piece is read, and a piece is read only when one of its characters is looked at. -/

namespace Patchbay.Yaml

/-- The characters of a text up to the first that cannot be read. -/
structure Source where
  chars : List Char
  /-- How many characters may be looked at, where not all can be read. -/
  limit : Option Nat

/-- Whether a character may stand in a text. -/
def isAllowed (c : Char) : Bool :=
  let n := c.toNat
  n == 0x09 || n == 0x0A || n == 0x0D || (0x20 ≤ n && n ≤ 0x7E) || n == 0x85 ||
    (0xA0 ≤ n && n ≤ 0xFFFD) ||
    0x10000 ≤ n

namespace Source

/-- The number of bytes of a piece. -/
def pieceSize : Nat := 512

/-- How far the reading has come: the bytes left in the piece at hand, and the characters before it
and in all. -/
structure Place where
  room : Nat
  before : Nat
  count : Nat

/-- The place at the start of a text, behind a mark of some bytes. -/
def Place.start (width : Nat) : Place := ⟨pieceSize - width, 0, 0⟩

/-- Steps over a character of some bytes. One that does not fit the piece at hand starts the next
piece. -/
def Place.step (place : Place) (width : Nat) : Place :=
  if width ≤ place.room then { place with room := place.room - width, count := place.count + 1 }
  else ⟨pieceSize - width, place.count, place.count + 1⟩

/-- The characters in front of the piece that holds the next bytes. -/
def Place.limit (place : Place) (width : Nat) : Nat :=
  if width ≤ place.room then place.before else place.count

/-- Reads UTF-8, the characters so far in reverse, skipping first the bytes already read. -/
def readUtf8 : Nat → Place → List Char → Bytes → Source
  | _, _, chars, [] => ⟨chars.reverse, none⟩
  | skip + 1, place, chars, _ :: rest => readUtf8 skip place chars rest
  | 0, place, chars, a :: rest =>
    match Text.leadWidth? a with
    | none => ⟨chars.reverse, some (place.limit 1)⟩
    | some width =>
      if (rest.take (width - 1)).length < width - 1 then ⟨chars.reverse, some place.count⟩
      else
        match Text.firstGlyph a rest with
        | (.char c, more) =>
          if isAllowed c then readUtf8 more (place.step width) (c :: chars) rest
          else ⟨chars.reverse, some (place.limit width)⟩
        | (.stray _, _) => ⟨chars.reverse, some (place.limit width)⟩

/-- Two bytes as a number, the high byte first or last. -/
def unit (highFirst : Bool) (a b : UInt8) : Nat :=
  if highFirst then a.toNat * 256 + b.toNat else b.toNat * 256 + a.toNat

/-- Reads UTF-16, the characters so far in reverse. -/
def readUtf16 (highFirst : Bool) : Place → List Char → Bytes → Source
  | _, chars, [] => ⟨chars.reverse, none⟩
  | place, chars, [_] => ⟨chars.reverse, some place.count⟩
  | place, chars, a :: b :: rest =>
    let first := unit highFirst a b
    let bad (width : Nat) : Source := ⟨chars.reverse, some (place.limit width)⟩
    if 0xDC00 ≤ first && first < 0xE000 then bad 2
    else if 0xD800 ≤ first && first < 0xDC00 then
      match rest with
      | c :: d :: more =>
        let second := unit highFirst c d
        if 0xDC00 ≤ second && second < 0xE000 then
          let char := Char.ofNat (0x10000 + (first - 0xD800) * 0x400 + (second - 0xDC00))
          readUtf16 highFirst (place.step 4) (char :: chars) more
        else bad 4
      | _ => ⟨chars.reverse, some place.count⟩
    else
      let char := Char.ofNat first
      if isAllowed char then readUtf16 highFirst (place.step 2) (char :: chars) rest else bad 2

/-- The characters of a text. A mark of the byte order in front of it tells how they are written. -/
def ofBytes (text : Bytes) : Source :=
  match text with
  | 0xFF :: 0xFE :: rest => readUtf16 false (.start 2) [] rest
  | 0xFE :: 0xFF :: rest => readUtf16 true (.start 2) [] rest
  | 0xEF :: 0xBB :: 0xBF :: rest => readUtf8 0 (.start 3) [] rest
  | _ => readUtf8 0 (.start 0) [] text

end Source

end Patchbay.Yaml
