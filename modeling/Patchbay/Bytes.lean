/-! Byte strings: names, messages and file contents, which need not be valid UTF-8. -/

namespace Patchbay

/-- A sequence of bytes. -/
abbrev Bytes := List UInt8

/-- The UTF-8 bytes of a text. -/
def utf8 (text : String) : Bytes := text.toList.flatMap String.utf8EncodeChar

instance : Coe String Bytes := ⟨utf8⟩

/-- A natural number in decimal. -/
def natText (n : Nat) : Bytes := utf8 (toString n)

/-- An integer in decimal, with a minus sign when negative. -/
def intText (n : Int) : Bytes := utf8 (toString n)

/-- A number in lower-case hexadecimal, with at least `width` digits. -/
def hexText (width n : Nat) : Bytes :=
  let digits := (Nat.toDigits 16 n).flatMap String.utf8EncodeChar
  List.replicate (width - digits.length) 48 ++ digits

namespace Bytes

/-- The parts with a separator between each two neighbours. -/
def join (separator : Bytes) : List Bytes → Bytes
  | [] => []
  | [part] => part
  | part :: next :: rest => part ++ separator ++ join separator (next :: rest)

/-- The pieces between the occurrences of a byte; there is always at least one piece. -/
def splitOn (separator : UInt8) (text : Bytes) : List Bytes :=
  let (piece, pieces) := text.foldr
    (fun byte (piece, pieces) =>
      if byte = separator then ([], piece :: pieces) else (byte :: piece, pieces))
    ([], [])
  piece :: pieces

/-- The text around the first occurrence of a byte, if it occurs. -/
def cut? (separator : UInt8) : Bytes → Option (Bytes × Bytes)
  | [] => none
  | byte :: rest =>
    if byte = separator then some ([], rest)
    else (cut? separator rest).map fun (before, after) => (byte :: before, after)

/-- Byte order: the first difference decides, and a proper start comes first. -/
def less : Bytes → Bytes → Bool
  | [], [] => false
  | [], _ :: _ => true
  | _ :: _, [] => false
  | a :: as, b :: bs => a < b || (a == b && less as bs)

/-- The order used for sorting: not after. -/
def notAfter (a b : Bytes) : Bool := !less b a

/-- Whether the text ends with the given bytes. -/
def endsWith (text ending : Bytes) : Bool := ending.isSuffixOf text

/-- The text without the given ending, or unchanged when it does not end so. -/
def dropEnding (text ending : Bytes) : Bytes :=
  if endsWith text ending then text.take (text.length - ending.length) else text

end Bytes

end Patchbay
