import Patchbay.Bytes
import Std.Data.HashMap

/-! The Snappy block format: a length, then pieces that are either literal bytes or repeat earlier
ones. -/

namespace Patchbay.Snappy

/-- A piece of compressed data. -/
inductive Piece where
  | literal (bytes : Bytes)
  /-- Repeats bytes from a distance before the end of what is known; the run may reach into
  itself. -/
  | copy (length distance : Nat)
  deriving DecidableEq, Repr

/-- A number in groups of seven bits, the lowest first; all but the last have the high bit set. -/
def writeLength : Nat → Nat → Bytes
  | 0, _ => []
  | fuel + 1, n =>
    if n < 128 then [UInt8.ofNat n]
    else UInt8.ofNat (128 + n % 128) :: writeLength fuel (n / 128)

/-- The tag of a literal piece and its length where the tag has no room for it. -/
def literalHeader (length : Nat) : Bytes :=
  let size := length - 1
  if size < 60 then [UInt8.ofNat (4 * size)]
  else if size < 256 then [UInt8.ofNat (4 * 60), UInt8.ofNat size]
  else [UInt8.ofNat (4 * 61), UInt8.ofNat size, UInt8.ofNat (size / 256)]

/-- A piece in the format; a short repetition from nearby takes one byte less. -/
def Piece.write : Piece → Bytes
  | .literal bytes => literalHeader bytes.length ++ bytes
  | .copy length distance =>
    if 12 ≤ length || 2048 ≤ distance then
      [UInt8.ofNat (4 * (length - 1) + 2), UInt8.ofNat distance, UInt8.ofNat (distance / 256)]
    else [UInt8.ofNat (32 * (distance / 256) + 4 * (length - 4) + 1), UInt8.ofNat distance]

/-- A repetition as pieces of at most 64 bytes, none of less than four. -/
def copies (distance length : Nat) : List Piece :=
  if 68 ≤ length then .copy 64 distance :: copies distance (length - 64)
  else if 64 < length then [.copy 60 distance, .copy (length - 60) distance]
  else [.copy length distance]

/-- The number of bytes that are compressed on their own. -/
def blockLimit : Nat := 65536

/-- The number of bytes at the end of a block in which no repetitions are looked for. -/
def margin : Nat := 15

/-- The number of bits of the places of a table for a block. -/
def tableBits (size : Nat) : Nat :=
  ((List.range 6).find? fun more => size ≤ 1 <<< (8 + more)).elim 14 (8 + ·)

/-- The place in a table of that many bits for the four bytes at a place. -/
def slot (bits : Nat) (data : Array UInt8) (place : Nat) : Nat :=
  let byte (i : Nat) : UInt32 := (data[place + i]?.getD 0).toUInt32
  let word := byte 0 + 256 * (byte 1 + 256 * (byte 2 + 256 * byte 3))
  (word * 0x1e35a7bd).toNat >>> (32 - bits)

/-- How many bytes from one place on equal those from another, up to a limit. -/
def common (data : Array UInt8) (a b : Nat) : Nat → Nat
  | 0 => 0
  | limit + 1 =>
    match data[a]?, data[b]? with
    | some x, some y => if x == y then common data (a + 1) (b + 1) limit + 1 else 0
    | _, _ => 0

/-- The bytes of a block between two places as a literal piece, if there are any. -/
def literals (data : Array UInt8) (start stop : Nat) : List Piece :=
  if start < stop then [.literal (data.extract start stop).toList] else []

/-- The pieces of a block from a place on. The bytes before `place` are in pieces up to `written`,
and the table has the last place that was looked at for each of its slots. Where no four bytes are
found again, the next place is looked at, and the steps get longer the longer nothing is found. -/
def cut (bits : Nat) (data : Array UInt8) :
    Nat → Nat → Nat → Nat → Nat → Std.HashMap Nat Nat → List Piece
  | 0, written, _, _, _, _ => literals data written data.size
  | fuel + 1, written, place, next, skip, seen =>
    if data.size < next + margin then literals data written data.size
    else
      let earlier := seen.getD (slot bits data place) 0
      let seen := seen.insert (slot bits data place) place
      let length := common data earlier place (data.size - place)
      if length < 4 then
        cut bits data fuel written next (next + skip / 32) (skip + skip / 32) seen
      else
        let stop := place + length
        let seen := seen.insert (slot bits data (stop - 1)) (stop - 1)
        literals data written place ++ copies (place - earlier) length ++
          cut bits data fuel stop stop (stop + 1) 32 seen

/-- The pieces of a block. -/
def blockPieces (data : Array UInt8) : List Piece :=
  cut (tableBits data.size) data data.size 0 1 2 33 ∅

/-- The pieces of data, one block after the other. -/
def pieces (data : Bytes) : List Piece :=
  if data.isEmpty then []
  else blockPieces (data.take blockLimit).toArray ++ pieces (data.drop blockLimit)
termination_by data.length
decreasing_by
  rename_i filled
  rw [List.isEmpty_iff, ← List.length_eq_zero_iff] at filled
  simp only [List.length_drop, blockLimit]
  omega

/-- Compressed data. -/
def compress (data : Bytes) : Bytes :=
  writeLength 10 data.length ++ (pieces data).flatMap Piece.write

/-- Reads a length of at most 64 bits. -/
def readLength : Nat → Nat → Nat → Bytes → Option (Nat × Bytes)
  | _, _, _, [] => none
  | 0, _, _, _ => none
  | fuel + 1, scale, read, byte :: rest =>
    let read := read + (byte.toNat % 128) * scale
    if byte < 128 then (if read < 0x10000000000000000 then some (read, rest) else none)
    else readLength fuel (scale * 128) read rest

/-- A number of some bytes, the lowest first. -/
def little : Nat → Bytes → Option (Nat × Bytes)
  | 0, rest => some (0, rest)
  | _ + 1, [] => none
  | count + 1, byte :: rest => (little count rest).map fun (high, after) =>
    (byte.toNat + 256 * high, after)

/-- The bytes of a list and the rest behind them, when there are enough. -/
def take? (count : Nat) (bytes : Bytes) : Option (Bytes × Bytes) :=
  if count ≤ bytes.length then some (bytes.take count, bytes.drop count) else none

/-- Reads the next piece. -/
def readPiece (tag : UInt8) (rest : Bytes) : Option (Piece × Bytes) := do
  let high := tag.toNat / 4
  match tag.toNat % 4 with
  | 0 =>
    let (size, rest) ← if high < 60 then some (high, rest) else little (high - 59) rest
    let (bytes, rest) ← take? (size + 1) rest
    return (.literal bytes, rest)
  | 1 =>
    let (low, rest) ← little 1 rest
    return (.copy (4 + high % 8) (tag.toNat / 32 * 256 + low), rest)
  | 2 =>
    let (distance, rest) ← little 2 rest
    return (.copy (high + 1) distance, rest)
  | _ =>
    let (distance, rest) ← little 4 rest
    return (.copy (high + 1) distance, rest)

/-- Repeats bytes from a distance before the end. -/
def repeated (distance : Nat) : Nat → Array UInt8 → Array UInt8
  | 0, known => known
  | count + 1, known => repeated distance count (known.push (known[known.size - distance]?.getD 0))

/-- What is known after a piece; it must stay within the announced length. -/
def Piece.apply (total : Nat) (known : Array UInt8) : Piece → Option (Array UInt8)
  | .literal bytes => if known.size + bytes.length ≤ total then some (known ++ bytes) else none
  | .copy length distance =>
    if distance = 0 || known.size < distance || total < known.size + length then none
    else some (repeated distance length known)

/-- Takes pieces to the end of the data, which must give exactly the announced length. -/
def expand (total : Nat) : Nat → Bytes → Array UInt8 → Option (Array UInt8)
  | _, [], known => if known.size = total then some known else none
  | 0, _, _ => none
  | fuel + 1, tag :: rest, known => do
    let (piece, rest) ← readPiece tag rest
    let known ← piece.apply total known
    expand total fuel rest known

/-- The data that was compressed; `none` when the bytes are not in the format. -/
def decompress (bytes : Bytes) : Option Bytes := do
  let (total, rest) ← readLength 10 1 0 bytes
  if 0x100000000 ≤ total then none
  let known ← expand total rest.length rest #[]
  return known.toList

end Patchbay.Snappy
