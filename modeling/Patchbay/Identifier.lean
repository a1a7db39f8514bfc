import Patchbay.Bytes

/-! Identifiers: the names under which nodes and parameters are referred to. -/

namespace Patchbay

/-- Whether a byte is an ASCII letter. -/
def isLetter (b : UInt8) : Bool := (65 ≤ b && b ≤ 90) || (97 ≤ b && b ≤ 122)

/-- Whether a byte may open an identifier: a letter or an underscore. -/
def opensIdentifier (b : UInt8) : Bool := isLetter b || b == 95

/-- Whether a byte may follow in an identifier: also a digit, a dot or a dash. -/
def continuesIdentifier (b : UInt8) : Bool :=
  opensIdentifier b || (48 ≤ b && b ≤ 57) || b == 46 || b == 45

/-- Whether a text is an identifier. -/
def isIdentifier : Bytes → Bool
  | [] => false
  | b :: rest => opensIdentifier b && rest.all continuesIdentifier

/-- The longest name in bytes: its length is written in one byte. -/
def nameLimit : Nat := 255

/-- What is wrong with an identifier. -/
inductive IdentifierError where
  | empty
  | tooLong
  | malformed
  deriving DecidableEq, Repr

/-- Checks an identifier. -/
def checkIdentifier (id : Bytes) : Except IdentifierError Unit :=
  if id.isEmpty then .error .empty
  else if nameLimit < id.length then .error .tooLong
  else if isIdentifier id then .ok ()
  else .error .malformed

/-- The text of an identifier error. -/
def IdentifierError.message (id : Bytes) : IdentifierError → Bytes
  | .empty => "identifier cannot be empty"
  | .tooLong => "identifier '" ++ id ++ "' exceeds maximum length of 255 bytes"
  | .malformed =>
    "identifier '" ++ id ++ "' is invalid (must start with letter or underscore, " ++
      "followed by alphanumeric, underscore, dot or dash)"

end Patchbay
