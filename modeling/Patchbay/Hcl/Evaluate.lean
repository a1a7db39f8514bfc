import Patchbay.Hcl.Expr

/-! The values of HCL expressions, with the complaints that arise on the way. An expression that
fails has an unknown value, so that the rest can still be looked at. -/

namespace Patchbay.Hcl

/-- A complaint about a line. -/
structure Note where
  line : Nat
  summary : Bytes
  deriving DecidableEq, Repr

/-- A computation that may complain; the last complaint stands first. -/
abbrev Noted := StateM (List Note)

namespace Noted

/-- Complains. -/
def note (line : Nat) (summary : Bytes) : Noted Unit := modify (⟨line, summary⟩ :: ·)

/-- Complains and has an unknown value. -/
def fail (line : Nat) (summary : Bytes) (kind : Kind) : Noted Value := do
  note line summary
  return .unknown kind

/-- A result, and whether it came with complaints. -/
def watched {α : Type} (part : Noted α) : Noted (α × Bool) := do
  let before ← get
  let result ← part
  return (result, (← get).length != before.length)

/-- A result with its complaints set apart. -/
def aside {α : Type} (part : Noted α) : Noted (α × List Note) := return part.run []

/-- Complains as a part did that was set apart. -/
def again (notes : List Note) : Noted Unit := modify (notes ++ ·)

end Noted

open Noted

/-- What names stand for. Outside of loops there are no names at all. -/
structure Scope where
  names : Option (List (Bytes × Value))
  item : Value

/-- The scope of a whole text. -/
def Scope.outer : Scope := ⟨none, .unknown .dynamic⟩

/-- A scope with the names of a loop. -/
def Scope.bind (scope : Scope) (keyName : Option Bytes) (valueName : Bytes) (key value : Value) :
    Scope :=
  let names := scope.names.getD []
  let names := match keyName with
    | some name => (name, key) :: names
    | none => names
  { scope with names := some ((valueName, value) :: names) }

/-- The kind that the operands of an operator convert to. -/
def Operator.operandKind : Operator → Kind
  | .either | .both => .flag
  | .equal | .notEqual => .dynamic
  | _ => .number

/-- The kind of the result of an operator. -/
def Operator.resultKind : Operator → Kind
  | .add | .subtract | .multiply | .divide | .remainder => .number
  | _ => .flag

/-- The result of an operator on converted operands. Only equality is defined on nulls. -/
def Operator.apply (operator : Operator) (left right : Value) : Option Value :=
  match operator with
  | .equal | .notEqual =>
    if left.isKnown && right.isKnown then some (.flag (left.equal right == (operator == .equal)))
    else some (.unknown .flag)
  | _ =>
    match left, right with
    | .number a, .number b =>
      match operator with
      | .add => (Wide.add a b).map .number
      | .subtract => (Wide.subtract a b).map .number
      | .multiply => (Wide.multiply a b).map .number
      | .divide => (Wide.divide a b).map .number
      | .remainder => (Wide.remainder a b).map .number
      | .greater => some (.flag (Wide.compare a b == .gt))
      | .greaterEqual => some (.flag (Wide.compare a b == .gt || Wide.same a b))
      | .less => some (.flag (Wide.compare a b == .lt))
      | .lessEqual => some (.flag (Wide.compare a b == .lt || Wide.same a b))
      | _ => none
    | .flag a, .flag b =>
      match operator with
      | .either => some (.flag (a || b))
      | .both => some (.flag (a && b))
      | _ => none
    | .null _, _ | _, .null _ => none
    | _, _ => some (.unknown operator.resultKind)

/-- The items of a value that can be walked over, with their keys. -/
def Value.entries? : Value → Option (List (Value × Value))
  | .list _ items | .tuple items =>
    some (items.zipIdx.map fun (value, i) => (.number (.ofNat i), value))
  | .map _ fields | .object fields => some (fields.map fun (name, value) => (.text name, value))
  | _ => none

/-- Whether values of a kind can be walked over. -/
def Kind.isWalkable : Kind → Bool
  | .list _ | .map _ | .tuple _ | .object _ => true
  | _ => false

/-- The field of a value. -/
def Value.field (line : Nat) (name : Bytes) (value : Value) : Noted (Option Value) := do
  let refused (summary : Bytes) : Noted (Option Value) := do
    note line summary
    return none
  let name := Text.canonical name
  match value with
  | .null _ => refused "Attempt to get attribute from null value"
  | .object fields =>
    match fields.lookup name with
    | some found => return some found
    | none => refused "Unsupported attribute"
  | .map _ fields =>
    match fields.lookup name with
    | some found => return some found
    | none => refused "Missing map element"
  | .unknown .dynamic => return some (.unknown .dynamic)
  | .unknown (.map item) => return some (.unknown item)
  | .unknown (.object fields) =>
    match fields.lookup name with
    | some kind => return some (.unknown kind)
    | none => refused "Unsupported attribute"
  | _ => refused "Unsupported attribute"

/-- The place that a number names in a list of some length. -/
def position? (length : Nat) (key : Wide) : Option Nat := do
  let place ← key.word?
  if 0 ≤ place && place < length then some place.toNat else none

/-- The item of a value at a key. -/
def Value.at (line : Nat) (value key : Value) : Noted (Option Value) := do
  let refused (summary : Bytes) : Noted (Option Value) := do
    note line summary
    return none
  let placed (items : List Value) : Noted (Option Value) := do
    match key.convert .number with
    | some (.number place) =>
      match (position? items.length place).bind (items[·]?) with
      | some found => return some found
      | none => refused "Invalid index"
    | some _ => return some (.unknown .dynamic)
    | none => refused "Invalid index"
  let named (fields : List (Bytes × Value)) : Noted (Option Value) := do
    match key.convert .text with
    | some (.text name) =>
      match fields.lookup name with
      | some found => return some found
      | none => refused "Invalid index"
    | some _ => return some (.unknown .dynamic)
    | none => refused "Invalid index"
  if value.isNull then refused "Attempt to index null value"
  else if key.isNull then refused "Invalid index"
  else if key.kind == .dynamic || value.kind == .dynamic then return some (.unknown .dynamic)
  else match value with
    | .list _ items | .tuple items => placed items
    | .map _ fields | .object fields => named fields
    | .unknown kind =>
      if kind.isWalkable then return some (.unknown .dynamic) else refused "Invalid index"
    | _ => refused "Invalid index"

/-- A value after some steps; the first that fails ends them. -/
def Value.follow : List Step → Value → Noted Value
  | [], value => return value
  | .field line name :: rest, value => do
    match ← value.field line name with
    | some next => next.follow rest
    | none => return .unknown .dynamic
  | .index line key :: rest, value => do
    match ← value.at line key with
    | some next => next.follow rest
    | none => return .unknown .dynamic

/-- The name that a key stands for when it is written bare. -/
def bareKey? : Expr → Option Bytes
  | .variable _ name => some name
  | .literal _ (.flag value) => some (flagText value)
  | .literal _ (.null _) => some "null"
  | _ => none

/-- Whether a key is a bare name with further steps, which could be meant in two ways. -/
def isAmbiguousKey : Expr → Bool
  | .steps (.variable _ _) _ => true
  | _ => false

/-- The text of a part of a template: `none` when nothing can be appended, and whether it is
known. -/
def partText (line : Nat) (value : Value) : Noted (Option Bytes × Bool) := do
  let summary : Bytes := "Invalid template interpolation value"
  match value with
  | .null _ =>
    note line summary
    return (none, true)
  | .unknown _ => return (none, false)
  | _ =>
    match value.convert .text with
    | some (.text text) => return (some text, true)
    | _ =>
      note line summary
      return (none, true)

/-- The kind that both results of a conditional convert to. A null of no kind takes that of the
other. -/
def resultKind (yes no : Value) : Option Kind :=
  match yes, no with
  | .null .dynamic, other | other, .null .dynamic => some other.kind
  | _, _ => Kind.common true [yes.kind, no.kind]

/-- A result of a conditional as one of the common kind. Nothing is known about it when its kind is
lost. -/
def Value.become (kind : Kind) (value : Value) : Option Value :=
  if kind == .dynamic && !value.isNull then some (.unknown .dynamic) else value.convert kind

/-- What the condition of a loop says about an item: to take it, to leave it, or that it failed. -/
inductive Choice where
  | take
  | leave
  | failed

/-- The choice that a condition's value makes; only the first failure is complained about. -/
def chosen (line : Nat) (known : Bool) (value : Value) : Noted Choice := do
  let failed : Noted Choice := do
    if known then note line "Invalid 'for' condition"
    return .failed
  if value.isNull then failed
  else match value.convert .flag with
    | some (.flag true) => return .take
    | some (.flag false) => return .leave
    | some _ => return .failed
    | none => failed

/-- What an object loop has collected; the last value of a group stands first. -/
structure Collected where
  groups : List (Bytes × List Value)
  known : Bool

/-- The values of a group with one more. -/
def Collected.insert (collected : Collected) (key : Bytes) (value : Value) : Collected :=
  if collected.groups.any (·.1 == key) then
    { collected with
      groups := collected.groups.map fun (name, values) =>
        if name == key then (name, value :: values) else (name, values) }
  else { collected with groups := (key, [value]) :: collected.groups }

mutual

/-- The value of an expression. -/
def Expr.eval (scope : Scope) : Expr → Noted Value
  | .literal _ value => return value
  | .template _ parts => do
    let start ← get
    let (text, known) ← evalParts scope start.length [] true parts
    return if known then .ofText text else .unknown .text
  | .whole _ inner => inner.eval scope
  | .parens _ inner => inner.eval scope
  | .joined loop => do
    match ← loop.eval scope with
    | .tuple items =>
      let mut text : Bytes := []
      for item in items do
        match ← partText loop.line item with
        | (some more, _) => text := text ++ more
        | (none, true) => text := text
        | (none, false) => return .unknown .text
      return .ofText text
    | _ => return .unknown .text
  | .variable line name => do
    match scope.names with
    | none => fail line "Variables not allowed" .dynamic
    | some names =>
      match names.lookup name with
      | some value => return value
      | none => fail line "Unknown variable" .dynamic
  | .call line => fail line "Function calls not allowed" .dynamic
  | .steps source path => do
    let (value, failed) ← watched (source.eval scope)
    match source with
    | .variable _ _ => if failed then return value else value.follow path
    | _ => value.follow path
  | .index line source key => do
    let value ← source.eval scope
    let key ← key.eval scope
    return (← value.at line key).getD (.unknown .dynamic)
  | .item _ => return scope.item
  | .splat _ source each => do
    let (value, failed) ← watched (source.eval scope)
    if failed then return .unknown .dynamic
    let run (items : List Value) : Noted (List Value × Bool) :=
      watched (items.mapM fun item => each.eval { scope with item := item })
    -- The kind of the result for an item about which only its kind is known.
    let kindFor (item : Kind) : Noted Kind :=
      return (← each.eval { scope with item := .unknown item }).kind
    match value with
    | .list item [] => return .list (← kindFor item) []
    | .list item items =>
      let (results, failed) ← run items
      let ((resultKind, _) : Kind × List Note) ← aside (kindFor item)
      return if failed then .unknown (.list resultKind)
        else .list (jointKind (itemKinds results)) results
    | .tuple items =>
      let (results, failed) ← run items
      return if failed then .unknown (.tuple (itemKinds results)) else .tuple results
    | .null (.list _) | .null (.tuple _) => fail source.line "Splat of null value" .dynamic
    | .null _ => return .tuple []
    | .unknown (.list item) => return .unknown (.list (← kindFor item))
    | .unknown (.tuple items) => return .unknown (.tuple (← items.mapM kindFor))
    | .unknown .dynamic => return .unknown .dynamic
    | .unknown _ =>
      let _ ← run [value]
      return .unknown .dynamic
    | _ =>
      let (results, failed) ← run [value]
      return if failed then .unknown (.tuple (itemKinds results)) else .tuple results
  | .conditional condition yes no => do
    let (yesValue, yesNotes) ← aside (yes.eval scope)
    let (noValue, noNotes) ← aside (no.eval scope)
    let mismatch : Bytes := "Inconsistent conditional result types"
    match resultKind yesValue noValue with
    | none => fail yes.line mismatch .dynamic
    | some kind =>
      let value ← condition.eval scope
      let pick (branch : Expr) (value : Value) (notes : List Note) : Noted Value := do
        again notes
        match value.become kind with
        | some result => return result
        | none => fail branch.line mismatch kind
      match value with
      | .null _ => fail condition.line "Null condition" kind
      | .unknown _ => return if yesValue.isNull && noValue.isNull then .null kind else .unknown kind
      | _ =>
        match value.convert .flag with
        | some (.flag true) => pick yes yesValue yesNotes
        | some (.flag false) => pick no noValue noNotes
        | _ => fail condition.line "Incorrect condition type" kind
  | .binary operator left right => do
    let ((leftValue, rightValue), failed) ← watched do
      let l ← left.eval scope
      let r ← right.eval scope
      return (l, r)
    let a := leftValue.convert operator.operandKind
    let b := rightValue.convert operator.operandKind
    if a.isNone then note left.line "Invalid operand"
    if b.isNone then note right.line "Invalid operand"
    match a, b with
    | some a, some b =>
      if failed then return .unknown operator.resultKind
      else match operator.apply a b with
        | some result => return result
        | none => fail left.line "Operation failed" operator.resultKind
    | _, _ => return .unknown operator.resultKind
  | .negate line operand => do
    let (value, failed) ← watched (operand.eval scope)
    match value.convert .number with
    | none => fail operand.line "Invalid operand" .number
    | some (.number n) => return if failed then .unknown .number else .number (Wide.negate n)
    | some (.null _) =>
      if failed then return .unknown .number else fail line "Operation failed" .number
    | some _ => return .unknown .number
  | .not line operand => do
    let (value, failed) ← watched (operand.eval scope)
    match value.convert .flag with
    | none => fail operand.line "Invalid operand" .flag
    | some (.flag b) => return if failed then .unknown .flag else .flag !b
    | some (.null _) => if failed then return .unknown .flag else fail line "Operation failed" .flag
    | some _ => return .unknown .flag
  | .tuple _ items => return .tuple (← evalAll scope items)
  | .object _ fields => do
    let (fields, known) ← evalFields scope [] true fields
    return if known then .object fields else .unknown .dynamic
  | .tupleLoop _ keyName valueName source value condition => do
    let collection ← source.eval scope
    if collection.isNull then fail source.line "Iteration over null value" .dynamic
    else if collection.kind == .dynamic then return .unknown .dynamic
    else match collection.entries? with
      | none =>
        if collection.kind.isWalkable then return .unknown .dynamic
        else fail source.line "Iteration over non-iterable value" .dynamic
      | some entries =>
        let unknown := scope.bind keyName valueName (.unknown .dynamic) (.unknown .dynamic)
        if !(← evalProbe unknown condition) then return .unknown .dynamic
        let mut results : List Value := []
        let mut known := true
        for (key, item) in entries do
          let inner := scope.bind keyName valueName key item
          match ← evalChoice inner known condition with
          | .take => results := (← value.eval inner) :: results
          | .leave => results := results
          | .failed => known := false
        return if known then .tuple results.reverse else .unknown .dynamic
  | .objectLoop _ keyName valueName source key value group condition => do
    let collection ← source.eval scope
    if collection.isNull then fail source.line "Iteration over null value" .dynamic
    else if collection.kind == .dynamic then return .unknown .dynamic
    else match collection.entries? with
      | none =>
        if collection.kind.isWalkable then return .unknown .dynamic
        else fail source.line "Iteration over non-iterable value" .dynamic
      | some entries =>
        let unknown := scope.bind keyName valueName (.unknown .dynamic) (.unknown .dynamic)
        if !(← evalProbe unknown condition) then return .unknown .dynamic
        let mut collected : Collected := ⟨[], true⟩
        for (entryKey, item) in entries do
          let inner := scope.bind keyName valueName entryKey item
          match ← evalChoice inner collected.known condition with
          | .leave => collected := collected
          | .failed => collected := { collected with known := false }
          | .take =>
            let name ← key.eval inner
            match name, name.convert .text with
            | .unknown _, _ => collected := { collected with known := false }
            | _, some (.text name) =>
              let result ← value.eval inner
              if !group && collected.groups.any (·.1 == name) then
                note key.line "Duplicate object key"
              else collected := collected.insert name result
            | _, _ =>
              if collected.known then note key.line "Invalid object key"
              collected := { collected with known := false }
        if !collected.known then return .unknown .dynamic
        let fields := collected.groups.foldl
          (fun fields (name, values) =>
            setField name
              (if group then .tuple values.reverse else values.headD (.unknown .dynamic)) fields) []
        return .object fields

/-- The values of expressions, in order. -/
def evalAll (scope : Scope) : List Expr → Noted (List Value)
  | [] => return []
  | expr :: rest => do
    let value ← expr.eval scope
    return value :: (← evalAll scope rest)

/-- The text of the parts of a template. After a complaint nothing more is appended. -/
def evalParts (scope : Scope) (start : Nat) (text : Bytes) (known : Bool) :
    List Expr → Noted (Bytes × Bool)
  | [] => return (text, known)
  | part :: rest => do
    let value ← part.eval scope
    let (more, sure) ← partText part.line value
    let clean := (← get).length == start
    match more with
    | some more => evalParts scope start (if known && clean then text ++ more else text) known rest
    | none => evalParts scope start text (known && sure) rest

/-- The fields of an object, and whether all their names are known. -/
def evalFields (scope : Scope) (fields : List (Bytes × Value)) (known : Bool) :
    List (Expr × Bool × Expr) → Noted (List (Bytes × Value) × Bool)
  | [] => return (fields, known)
  | (key, forced, value) :: rest => do
    let bare := if forced then none else bareKey? key
    let (name, failed) ← watched do
      match bare with
      | some name => return Value.ofText name
      | none =>
        if !forced && isAmbiguousKey key then fail key.line "Ambiguous attribute key" .dynamic
        else key.eval scope
    let result ← value.eval scope
    if failed then evalFields scope fields false rest
    else if name.isNull then
      note value.line "Null value as key"
      evalFields scope fields false rest
    else match name.convert .text with
      | some (.text name) => evalFields scope (setField name result fields) known rest
      | some _ => evalFields scope fields false rest
      | none =>
        note key.line "Incorrect key type"
        evalFields scope fields false rest

/-- Whether the condition of a loop can be a condition at all, tried with unknown items. -/
def evalProbe (scope : Scope) : Option Expr → Noted Bool
  | none => return true
  | some condition => do
    let (value, failed) ← watched (condition.eval scope)
    if value.isNull then
      note condition.line "Condition is null"
      return false
    else match value.convert .flag with
      | some _ => return !failed
      | none =>
        note condition.line "Invalid 'for' condition"
        return false

/-- Whether the condition of a loop takes an item. -/
def evalChoice (scope : Scope) (known : Bool) : Option Expr → Noted Choice
  | none => return .take
  | some condition => do
    let value ← condition.eval scope
    chosen condition.line known value

end

end Patchbay.Hcl
