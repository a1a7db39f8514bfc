import Patchbay.Control.Descriptor
import Patchbay.Description.Basic
import Patchbay.Identifier

/-! The rules that the entries of a description keep, one by one. -/

namespace Patchbay

/-- A rule that an entry breaks. -/
inductive Rule where
  | present
  | atLeast (bound : Nat)
  | atMost (bound : Nat)
  | controlOp
  | identifier (value : Bytes)
  | rate (value : Bytes)
  | short
  deriving DecidableEq, Repr

/-- A rule broken at a place of a description. -/
structure Violation where
  place : Bytes
  rule : Rule
  deriving DecidableEq, Repr

/-- What is said of a broken rule. -/
def Rule.message : Rule → Bytes
  | .present => "field is required"
  | .atLeast bound => "must be at least " ++ natText bound
  | .atMost bound => "must not exceed " ++ natText bound
  | .controlOp => "must be one of [" ++ Bytes.join " " controlOps ++ "]"
  | .identifier value => "'" ++ value ++ "' is not a valid identifier"
  | .rate value => "'" ++ value ++ "' is not a rate"
  | .short => "exceeds " ++ natText nameLimit ++ " bytes"

/-- The text of a violation. -/
def Violation.message (violation : Violation) : Bytes :=
  violation.place ++ ": " ++ violation.rule.message

namespace Rule

/-- The first rule broken by a name that need not be there. -/
def ofName (text : Bytes) : Option Rule := if nameLimit < text.length then some .short else none

/-- The first rule broken by a name that must be there. -/
def ofNeededName (text : Bytes) : Option Rule := if text.isEmpty then some .present else ofName text

/-- The first rule broken by an identifier. -/
def ofIdentifier (text : Bytes) : Option Rule :=
  if text.isEmpty then some .present
  else if isIdentifier text then ofName text
  else some (.identifier text)

/-- The first rule broken by a rate that need not be there. -/
def ofRate (text : Bytes) : Option Rule :=
  if text.isEmpty || (Rate.parse? text).isSome then none else some (.rate text)

/-- The first rule broken by a rate that must be there. -/
def ofNeededRate (text : Bytes) : Option Rule := if text.isEmpty then some .present else ofRate text

/-- The first rule broken by a control operator that need not be there. -/
def ofControlOp (text : Bytes) : Option Rule :=
  if text.isEmpty || isControlOp text then none else some .controlOp

/-- The first rule broken by a number that is written in two bytes. -/
def ofCount (n : Int) : Option Rule :=
  if n < 0 then some (.atLeast 0) else if 65535 < n then some (.atMost 65535) else none

/-- The first rule broken by a list that must have members. -/
def ofList {α : Type} : Option (List α) → Option Rule
  | none => some .present
  | some [] => some (.atLeast 1)
  | some (_ :: _) => none

end Rule

/-- A rule broken by a field. -/
def brokenAt (place field : Bytes) (rule : Option Rule) : Option Violation :=
  rule.map fun rule => ⟨place ++ "." ++ field, rule⟩

/-- The first violation among the members of a list. -/
def firstBroken {α : Type} (check : Bytes → α → Option Violation) (place : Bytes)
    (members : List α) :
    Option Violation :=
  members.zipIdx.findSome? fun (member, n) => check (place ++ "[" ++ natText n ++ "]") member

/-- The first rule that a parameter breaks. -/
def ParameterEntry.check (place : Bytes) (entry : ParameterEntry) : Option Violation :=
  brokenAt place "name" (Rule.ofIdentifier entry.name)

/-- The first rule that a group breaks. -/
def GroupEntry.check (place : Bytes) (entry : GroupEntry) : Option Violation :=
  brokenAt place "rate" (Rule.ofRate entry.rate) <|>
  brokenAt place "op" (Rule.ofControlOp entry.op) <|>
  brokenAt place "params" (Rule.ofList entry.parameters) <|>
  firstBroken ParameterEntry.check (place ++ ".params") (entry.parameters.getD [])

/-- The first rule that a node breaks. -/
def NodeEntry.check (place : Bytes) (entry : NodeEntry) : Option Violation :=
  brokenAt place "id" (Rule.ofIdentifier entry.id) <|>
  brokenAt place "op" (Rule.ofNeededName entry.op) <|>
  brokenAt place "rate" (Rule.ofNeededRate entry.rate) <|>
  brokenAt place "outputs" (entry.outputs.bind Rule.ofCount) <|>
  brokenAt place "special" (Rule.ofCount entry.special)

/-- The first rule that a description breaks. -/
def Description.check (description : Description) : Option Violation :=
  brokenAt "Document" "name" (Rule.ofName description.name) <|>
  firstBroken GroupEntry.check "Document.controls" description.controls <|>
  firstBroken NodeEntry.check "Document.nodes" description.nodes <|>
  brokenAt "Document" "roots" (Rule.ofList description.roots)

end Patchbay
