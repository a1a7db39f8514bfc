import Patchbay.Hcl.Evaluate

/-! Reading the arguments and blocks of HCL bodies against a rule of what they may hold. -/

namespace Patchbay.Hcl

open Noted

/-- What a body may hold: arguments that must or may be there, and blocks by type, with the name of
their label where they have one. -/
structure BodyRule where
  required : List Bytes
  optional : List Bytes
  blocks : List (Bytes × Option Bytes)

/-- The label of a block, when it has as many labels as it should. -/
def Heading.label? (heading : Heading) (labelled : Bool) : Option Bytes :=
  match labelled, heading.labels with
  | false, [] => some []
  | true, [(_, label)] => some label
  | _, _ => none

/-- Complains about the labels of a block of a known type. -/
def Heading.check (heading : Heading) (label : Option Bytes) : Noted Unit :=
  match label, heading.labels with
  | none, (line, _) :: _ => note line ("Extraneous label for " ++ heading.type)
  | some _, _ :: (line, _) :: _ => note line ("Extraneous label for " ++ heading.type)
  | some name, [] => note heading.braceLine ("Missing " ++ name ++ " for " ++ heading.type)
  | _, _ => return

namespace Body

/-- The value of an argument. -/
def argument? (body : Body) (name : Bytes) : Option Expr :=
  (body.arguments.find? (·.name == name)).map (·.value)

/-- Complains about what a body lacks or holds against a rule. -/
def check (rule : BodyRule) (body : Body) : Noted Unit := do
  for name in rule.required do
    if (body.argument? name).isNone then note body.line "Missing required argument"
  for (heading, _) in body.blocks do
    match rule.blocks.lookup heading.type with
    | some label => heading.check label
    | none => pure ()
  for argument in body.arguments do
    if !rule.required.contains argument.name && !rule.optional.contains argument.name then
      note argument.line "Unsupported argument"
  for (heading, _) in body.blocks do
    if (rule.blocks.lookup heading.type).isNone then note heading.line "Unsupported block type"

/-- The well-labelled blocks of a type, each with its label. -/
def blocksOf (body : Body) (type : Bytes) (labelled : Bool) : List (Bytes × Body) :=
  body.blocks.filterMap fun (heading, inner) =>
    if heading.type = type then (heading.label? labelled).map fun label => (label, inner) else none

/-- Reads an argument, if it is there, as a value of a kind that passes a test. -/
def read {α : Type} (body : Body) (name : Bytes) (kind : Kind) (accept : Value → Option α) :
    Noted (Option α) := do
  match body.argument? name with
  | none => return none
  | some expr =>
    let value ← expr.eval .outer
    match (value.convert kind).bind accept with
    | some result => return some result
    | none =>
      note expr.markLine "Unsuitable value type"
      return none

end Body

/-- The text that a value is. -/
def Value.text? : Value → Option Bytes
  | .text value => some value
  | _ => none

/-- The 64-bit integer that a value is. -/
def Value.integer? : Value → Option Int
  | .number wide => wide.word?
  | _ => none

/-- The 64-bit number nearest to a value, unless only the rounding makes it infinite. -/
def Value.double? : Value → Option Binary
  | .number wide =>
    let rounded := wide.value.round .double
    if rounded.isInfinite && !wide.value.isInfinite then none else some rounded
  | _ => none

/-- The texts of a list; a null is no list. -/
def Value.texts? : Value → Option (Option (List Bytes))
  | .null _ => some none
  | .list _ items => (items.mapM Value.text?).map some
  | _ => none

end Patchbay.Hcl
