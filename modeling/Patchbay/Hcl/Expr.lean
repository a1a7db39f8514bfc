import Patchbay.Hcl.Value

/-! Expressions of HCL, and the bodies of arguments and blocks that hold them. -/

namespace Patchbay.Hcl

/-- An operator between two operands. -/
inductive Operator where
  | either | both
  | equal | notEqual
  | greater | greaterEqual | less | lessEqual
  | add | subtract
  | multiply | divide | remainder
  deriving DecidableEq, Repr

/-- A step into a value whose key is written out. -/
inductive Step where
  | field (line : Nat) (name : Bytes)
  | index (line : Nat) (key : Value)

/-- An expression with the lines that complaints about it name. -/
inductive Expr where
  | literal (line : Nat) (value : Value)
  /-- A text with holes. -/
  | template (line : Nat) (parts : List Expr)
  /-- A text that is one hole, which keeps the kind of its value. -/
  | whole (line : Nat) (inner : Expr)
  /-- The texts of a loop in a template, joined. -/
  | joined (loop : Expr)
  | parens (line : Nat) (inner : Expr)
  | variable (line : Nat) (name : Bytes)
  | call (line : Nat)
  | steps (source : Expr) (path : List Step)
  | index (line : Nat) (source key : Expr)
  /-- One result for each item of a source; the line is that of its mark. -/
  | splat (line : Nat) (source each : Expr)
  /-- The item that the innermost splat is at. -/
  | item (line : Nat)
  | conditional (condition yes no : Expr)
  | binary (operator : Operator) (left right : Expr)
  | negate (line : Nat) (operand : Expr)
  | not (line : Nat) (operand : Expr)
  | tuple (line : Nat) (items : List Expr)
  /-- An object; a key that is a bare name stands for itself unless it is in parentheses. -/
  | object (line : Nat) (fields : List (Expr × Bool × Expr))
  | tupleLoop (line : Nat) (keyName : Option Bytes) (valueName : Bytes) (source value : Expr)
      (condition : Option Expr)
  /-- A loop that makes an object; `group` collects the values of equal keys. -/
  | objectLoop (line : Nat) (keyName : Option Bytes) (valueName : Bytes) (source key value : Expr)
      (group : Bool) (condition : Option Expr)

/-- The line that an expression starts on. -/
def Expr.line : Expr → Nat
  | .literal line _ | .template line _ | .whole line _ | .parens line _ | .variable line _ | .call
      line
  | .item line | .negate line _ | .not line _ | .tuple line _ | .object line _
  | .tupleLoop line _ _ _ _ _ | .objectLoop line _ _ _ _ _ _ _ => line
  | .joined inner | .steps inner _ | .index _ inner _ | .splat _ inner _ | .conditional inner _ _
  | .binary _ inner _ => inner.line

mutual

/-- The line of the word that tells what an expression is: that of the mark behind a source, that of
the first part of a text, and that of what stands in parentheses. -/
def Expr.markLine : Expr → Nat
  | .literal line _ | .whole line _ | .variable line _ | .call line | .item line | .negate line
      _ | .not line _
  | .tuple line _ | .object line _ | .tupleLoop line _ _ _ _ _ | .objectLoop line _ _ _ _ _ _ _
  | .index line _ _ | .splat line _ _ => line
  | .steps source _ => source.line
  | .template line parts => firstPartLine line parts
  | .parens _ inner | .joined inner | .conditional inner _ _ | .binary _ inner _ => inner.markLine

/-- The line of the first of some parts. -/
def firstPartLine (line : Nat) : List Expr → Nat
  | [] => line
  | part :: _ => part.markLine

end

/-- An argument of a body. -/
structure Argument where
  line : Nat
  name : Bytes
  value : Expr

/-- The words before the body of a block. -/
structure Heading where
  line : Nat
  type : Bytes
  /-- The labels with their lines. -/
  labels : List (Nat × Bytes)
  /-- The line of the opening brace. -/
  braceLine : Nat

/-- What stands between the braces of a block, or in a whole text. -/
inductive Body where
  | mk (line : Nat) (arguments : List Argument) (blocks : List (Heading × Body))

/-- The line that a body starts on. -/
def Body.line : Body → Nat
  | .mk line _ _ => line

/-- The arguments of a body, in order. -/
def Body.arguments : Body → List Argument
  | .mk _ arguments _ => arguments

/-- The blocks of a body, in order. -/
def Body.blocks : Body → List (Heading × Body)
  | .mk _ _ blocks => blocks

end Patchbay.Hcl
