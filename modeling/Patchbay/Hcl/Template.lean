import Patchbay.Hcl.Expr
import Patchbay.Text.Blank
import Patchbay.Text.Cluster

/-! Texts with holes: from the parts between the quotes to expressions. -/

namespace Patchbay.Hcl

/-- A part of a template. -/
inductive Part where
  | literal (line : Nat) (text : Bytes)
  | hole (value : Expr)
  | ifOpen (condition : Expr)
  | elseMark
  | ifClose
  | forOpen (line : Nat) (keyName : Option Bytes) (valueName : Bytes) (source : Expr)
  | forClose

namespace Template

/-- Parts, the last given first, where a literal just read loses the white space at its end. -/
def trimLast : List Part → List Part
  | .literal line text :: rest => .literal line (Text.trimEnd text) :: rest
  | parts => parts

/-- Whether a part ends a line. -/
def Part.endsLine : Part → Bool
  | .literal _ text => Text.endsLine text
  | _ => false

/-- Whether a part is the whole of a line without anything to see. -/
def Part.isBlankLine : Part → Bool
  | .literal _ text => (Text.trimStart text).isEmpty && Text.endsLine text
  | _ => false

/-- The indentation of each line that counts: blank lines do not, and a line that starts with a hole
has none. -/
def indents : Bool → List Part → List Nat
  | _, [] => []
  | fresh, part :: rest =>
    let here := if !fresh || Part.isBlankLine part then [] else match part with
      | .literal _ text =>
        [Text.clusterCount (text.take (text.length - (Text.trimStart text).length))]
      | _ => [0]
    here ++ indents (Part.endsLine part) rest

/-- Takes the same number of clusters off the start of each line that is not blank. -/
def unindent (width : Nat) : Bool → List Part → List Part
  | _, [] => []
  | fresh, part :: rest =>
    let here := match part with
      | .literal line text =>
        if !fresh || Part.isBlankLine part then part
        else .literal line (Text.dropClusters width text)
      | _ => part
    here :: unindent width (Part.endsLine part) rest

/-- Removes the indentation common to all lines. -/
def flush (parts : List Part) : List Part :=
  unindent ((indents true parts).min?.getD 0) true parts

/-- Joins neighbouring literals. -/
def meld : List Part → List Part
  | .literal line text :: rest =>
    match meld rest with
    | .literal _ more :: after => .literal line (text ++ more) :: after
    | after => .literal line text :: after
  | part :: rest => part :: meld rest
  | [] => []

/-- A literal as an expression. -/
def literalExpr (line : Nat) (text : Bytes) : Expr := .literal line (.ofText text)

/-- Parts as one text; no parts are the empty text. -/
def ofParts (line : Nat) : List Expr → Expr
  | [] => .template line [literalExpr line []]
  | first :: rest => .template first.line (first :: rest)

/-- How the parts of a nested run ended. -/
inductive Ending where
  | template
  | elseMark
  | ifClose
  | forClose
  deriving DecidableEq

/-- The expressions of parts up to the end of a nested run, and the parts behind it. -/
def nest : Nat → List Part → Option (List Expr × Ending × List Part)
  | 0, _ => none
  | _ + 1, [] => some ([], .template, [])
  | fuel + 1, part :: rest =>
    let continued (first : Expr) (rest : List Part) : Option (List Expr × Ending × List Part) := do
      let (more, ending, after) ← nest fuel rest
      return (first :: more, ending, after)
    match part with
    | .literal line text => continued (literalExpr line text) rest
    | .hole value => continued value rest
    | .elseMark => some ([], .elseMark, rest)
    | .ifClose => some ([], .ifClose, rest)
    | .forClose => some ([], .forClose, rest)
    | .ifOpen condition => do
      let (yes, ending, after) ← nest fuel rest
      match ending with
      | .ifClose =>
        continued (.conditional condition (ofParts condition.line yes) (ofParts condition.line []))
          after
      | .elseMark =>
        let (no, ending, after) ← nest fuel after
        if ending != .ifClose then none
        continued (.conditional condition (ofParts condition.line yes) (ofParts condition.line no))
          after
      | _ => none
    | .forOpen line keyName valueName source => do
      let (body, ending, after) ← nest fuel rest
      if ending != .forClose then none
      continued (.joined (.tupleLoop line keyName valueName source (ofParts line body) none)) after

/-- The expression of a template: a single hole keeps the kind of its value. -/
def build (line : Nat) (bodyLine : Nat) (flushed : Bool) (parts : List Part) : Option Expr := do
  let parts := if parts.isEmpty then [.literal bodyLine []] else parts
  let parts := meld (if flushed then flush parts else parts)
  match parts with
  | [.hole value] => return .whole line value
  | _ =>
    let (exprs, ending, _) ← nest (parts.length + 1) parts
    if ending != .template then none
    return .template line exprs

end Template

end Patchbay.Hcl
