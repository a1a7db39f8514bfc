import Patchbay.Text.Blank

/-! The letters of HCL text. Bytes that only have the shape of a character are kept as they are,
since texts and comments may hold them. -/

namespace Patchbay.Hcl

/-- What stands at a place of a text: a character, bytes in the shape of a character that are none,
or a byte that is out of place. -/
inductive Letter where
  | char (c : Char)
  | shape (bytes : Bytes)
  | stray (b : UInt8)
  deriving DecidableEq, Repr

namespace Letter

/-- The bytes of a letter. -/
def bytes : Letter → Bytes
  | .char c => String.utf8EncodeChar c
  | .shape bytes => bytes
  | .stray b => [b]

/-- Whether a letter is a character with a property. -/
def isChar (property : Char → Bool) : Letter → Bool
  | .char c => property c
  | _ => false

/-- The bytes in the shape of a character that a byte starts, if they are all there. -/
def shape? (first : UInt8) (rest : Bytes) : Option Bytes := do
  let tails := (← Text.leadWidth? first) - 1
  let tail := rest.take tails
  if tail.length = tails && tail.all Text.isTail then some (first :: tail) else none

/-- The letters of a text, where some bytes belong to a letter that is read already. -/
def allFrom : Nat → Bytes → List Letter
  | _, [] => []
  | skip + 1, _ :: rest => allFrom skip rest
  | 0, a :: rest =>
    match Text.firstGlyph a rest with
    | (.char c, more) => .char c :: allFrom more rest
    | (.stray b, _) =>
      match shape? b rest with
      | some bytes => .shape bytes :: allFrom (bytes.length - 1) rest
      | none => .stray b :: allFrom 0 rest

/-- The letters of a text. -/
def all (text : Bytes) : List Letter := allFrom 0 text

end Letter

/-- The bytes of letters. -/
def lettersBytes (letters : List Letter) : Bytes := letters.flatMap Letter.bytes

end Patchbay.Hcl
