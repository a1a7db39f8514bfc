import Patchbay.Bytes
import Patchbay.Text.Quote

/-! Faults: what is wrong with a graph, a definition or a file, and where. -/

namespace Patchbay

/-- What is wrong. -/
inductive Cause where
  | cycle
  | nameTooLong
  | tooMany
  | danglingReference
  | orderViolation
  | unsupportedVariants
  | badMagic
  | badVersion
  | truncated
  | badReference
  | badRate
  | trailingData
  | orphanControl
  | unnamedControl
  deriving DecidableEq, Repr

/-- What is wrong, in words. -/
def Cause.text : Cause → Bytes
  | .cycle => "graph contains a cycle"
  | .nameTooLong => "name exceeds 255 bytes"
  | .tooMany => "table exceeds 16-bit count"
  | .danglingReference => "input refers to a node or constant outside the definition"
  | .orderViolation => "input refers to a node that is not earlier in the sequence"
  | .unsupportedVariants => "definition variants are not supported"
  | .badMagic => "bad magic"
  | .badVersion => "unsupported version"
  | .truncated => "truncated stream"
  | .badReference => "invalid input reference"
  | .badRate => "invalid rate"
  | .trailingData => "trailing data after last definition"
  | .orphanControl => "control entry not owned by any control node"
  | .unnamedControl => "control descriptor has no name"

/-- The family a fault belongs to. -/
inductive FaultKind where
  | structural
  | format
  | inconsistency
  | unknown
  deriving DecidableEq, Repr

/-- The name of a family. -/
def FaultKind.name : FaultKind → Bytes
  | .structural => "structural"
  | .format => "format"
  | .inconsistency => "inconsistency"
  | .unknown => "unknown"

/-- A fault with whatever cause: the operation that failed and the place it failed at. Numbers are
negative and texts empty where they do not apply. -/
structure FaultOf (κ : Type) where
  kind : FaultKind
  operation : Bytes
  cause : κ
  definition : Bytes := []
  node : Int := -1
  nodeOp : Bytes := []
  offset : Int := -1
  index : Int := -1
  context : Bytes := []
  deriving DecidableEq, Repr

/-- A fault of this library. -/
abbrev Fault := FaultOf Cause

namespace Fault

/-- A fault in the structure of a graph or definition. -/
def structural (operation : Bytes) (cause : Cause) : Fault :=
  ⟨.structural, operation, cause, [], -1, [], -1, -1, []⟩

/-- A fault in the bytes of a file. -/
def format (operation : Bytes) (cause : Cause) : Fault :=
  ⟨.format, operation, cause, [], -1, [], -1, -1, []⟩

/-- A disagreement between two parts of a file. -/
def inconsistency (operation : Bytes) (cause : Cause) : Fault :=
  ⟨.inconsistency, operation, cause, [], -1, [], -1, -1, []⟩

end Fault

namespace FaultOf

/-- A fault in words, without its cause: the operation and the place. -/
def place {κ : Type} (fault : FaultOf κ) : Bytes :=
  let definition : Bytes :=
    if fault.definition.isEmpty then [] else " " ++ Text.quote fault.definition
  let node : Bytes :=
    if 0 ≤ fault.node then
      " node " ++ intText fault.node ++
        (if fault.nodeOp.isEmpty then ([] : Bytes) else " (" ++ fault.nodeOp ++ ")")
    else if fault.nodeOp.isEmpty then []
    else " node " ++ fault.nodeOp
  let index : Bytes := if 0 ≤ fault.index then " index " ++ intText fault.index else []
  let offset : Bytes := if 0 ≤ fault.offset then " at offset " ++ intText fault.offset else []
  let context : Bytes := if fault.context.isEmpty then [] else " (" ++ fault.context ++ ")"
  fault.operation ++ definition ++ node ++ index ++ offset ++ context

end FaultOf

/-- A fault in words. -/
def Fault.message (fault : Fault) : Bytes := fault.place ++ ": " ++ fault.cause.text

end Patchbay
