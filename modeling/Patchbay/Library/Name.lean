import Patchbay.Files.Path
import Patchbay.Identifier
import Patchbay.Text.Quote

/-! The names that definitions can be stored under. -/

namespace Patchbay

/-- Why a name cannot be that of a file. -/
inductive NameError where
  | empty
  | tooLong
  | hidden
  | separated
  deriving DecidableEq, Repr

/-- Why a name cannot be that of a file, in words. -/
def NameError.message (name : Bytes) (error : NameError) : Bytes :=
  "invalid definition name: " ++ match error with
    | .empty => utf8 "empty"
    | .tooLong => "longer than " ++ natText nameLimit ++ " bytes"
    | .hidden => Text.quote name
    | .separated => Text.quote name ++ " contains a path separator"

/-- The bytes that no stored name has: the two slashes and zero. -/
def separators : Bytes := [47, 92, 0]

/-- Checks that a name can be that of a file. -/
def checkStoredName (name : Bytes) : Except NameError Unit :=
  if name.isEmpty then .error .empty
  else if nameLimit < name.length then .error .tooLong
  else if name.head? == some Path.dot then .error .hidden
  else if name.any separators.contains then .error .separated
  else .ok ()

end Patchbay
