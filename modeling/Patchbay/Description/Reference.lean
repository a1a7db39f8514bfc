import Patchbay.Decimal.Literal
import Patchbay.Text.Blank
import Patchbay.Text.Quote

/-! References: how a description writes an input of a node. -/

namespace Patchbay

open Decimal

/-- What an input refers to. -/
inductive Reference where
  /-- A new constant. -/
  | constant (value : Single)
  /-- All outputs of a node, or one of them. -/
  | node (id : Bytes) (slot : Option Nat)
  /-- A control parameter. -/
  | control (name : Bytes)
  deriving DecidableEq, Repr

/-- Why a text is no reference. -/
inductive ReferenceError where
  | empty
  | noControl
  | noSlot (text : Bytes)
  deriving DecidableEq, Repr

namespace Reference

/-- Reads `id` or `id:output`. -/
def readNode (text : Bytes) : Except ReferenceError Reference :=
  match Bytes.cut? (byte ':') text with
  | none => .ok (.node text none)
  | some (id, slot) =>
    match readWord slot with
    | some n => if id.isEmpty || n < 0 then .error (.noSlot text) else .ok (.node id (some n.toNat))
    | none => .error (.noSlot text)

/-- Reads a reference without blanks around it: `@name`, a number, `id` or `id:output`. -/
def readTrimmed : Bytes → Except ReferenceError Reference
  | [] => .error .empty
  | b :: rest =>
    if b = byte '@' then (if rest.isEmpty then .error .noControl else .ok (.control rest))
    else
      match readSingle (b :: rest) with
      | some value => .ok (.constant value)
      | none => readNode (b :: rest)

/-- Reads a reference. -/
def read (text : Bytes) : Except ReferenceError Reference := readTrimmed (Text.trim text)

end Reference

/-- The words that open every complaint about the form of an input. -/
def malformedInput (detail : Bytes) : Bytes := "malformed input: " ++ detail

/-- The text of a reference error. -/
def ReferenceError.message : ReferenceError → Bytes
  | .empty => malformedInput "empty input"
  | .noControl => malformedInput "\"@\" names no control"
  | .noSlot text => malformedInput (Text.quote text ++ " is not id:output")

end Patchbay
