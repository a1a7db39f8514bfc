import Patchbay.Decimal.Wide
import Patchbay.Hcl.Kind
import Patchbay.Text.Canonical

/-! The values of HCL expressions, and the conversions between them. -/

namespace Patchbay.Hcl

/-- A value. An expression that fails has an unknown value. Fields are in byte order of their
names. -/
inductive Value where
  | unknown (kind : Kind)
  | null (kind : Kind)
  | number (value : Wide)
  | text (value : Bytes)
  | flag (value : Bool)
  | list (item : Kind) (items : List Value)
  | map (item : Kind) (fields : List (Bytes × Value))
  | tuple (items : List Value)
  | object (fields : List (Bytes × Value))
  deriving Repr

/-- A text as a value, in its canonical form. -/
def Value.ofText (text : Bytes) : Value := .text (Text.canonical text)

mutual

/-- The kind of a value. -/
def Value.kind : Value → Kind
  | .unknown kind => kind
  | .null kind => kind
  | .number _ => .number
  | .text _ => .text
  | .flag _ => .flag
  | .list item _ => .list item
  | .map item _ => .map item
  | .tuple items => .tuple (itemKinds items)
  | .object fields => .object (fieldKinds fields)

/-- The kinds of the items of a tuple. -/
def itemKinds : List Value → List Kind
  | [] => []
  | value :: rest => value.kind :: itemKinds rest

/-- The kinds of the fields of an object. -/
def fieldKinds : List (Bytes × Value) → List (Bytes × Kind)
  | [] => []
  | (name, value) :: rest => (name, value.kind) :: fieldKinds rest

end

mutual

/-- Whether a value has no unknown part. -/
def Value.isKnown : Value → Bool
  | .unknown _ => false
  | .list _ items => allKnown items
  | .tuple items => allKnown items
  | .map _ fields => allFieldsKnown fields
  | .object fields => allFieldsKnown fields
  | _ => true

/-- Whether no value of a list has an unknown part. -/
def allKnown : List Value → Bool
  | [] => true
  | value :: rest => value.isKnown && allKnown rest

/-- Whether no field has an unknown part. -/
def allFieldsKnown : List (Bytes × Value) → Bool
  | [] => true
  | (_, value) :: rest => value.isKnown && allFieldsKnown rest

end

/-- Whether a value is null. -/
def Value.isNull : Value → Bool
  | .null _ => true
  | _ => false

/-- Reads a text as a truth value. -/
def readFlag (text : Bytes) : Option Bool :=
  if text = utf8 "true" || text = utf8 "1" then some true
  else if text = utf8 "false" || text = utf8 "0" then some false
  else none

/-- The text of a truth value. -/
def flagText (value : Bool) : Bytes := if value then "true" else "false"

/-- The kind of values taken together: the first that is not `dynamic`. -/
def jointKind (kinds : List Kind) : Kind := (kinds.find? (· != .dynamic)).getD .dynamic

/-- Whether values can be taken together: all have one kind, apart from those about which nothing is
known. -/
def fitTogether (kinds : List Kind) : Bool :=
  kinds.all fun kind => kind == .dynamic || kind == jointKind kinds

mutual

/-- The kind of a null or unknown value that becomes one of another kind: what is `dynamic` there
stays as it is. -/
def Kind.filled (kind : Kind) : Kind → Kind
  | .dynamic => kind
  | .list item =>
    match kind with
    | .list own => .list (own.filled item)
    | _ => .list item
  | .map item =>
    match kind with
    | .map own => .map (own.filled item)
    | _ => .map item
  | .tuple items => .tuple (filledItems kind.inner items)
  | .object fields => .object (filledFields kind fields)
  | target => target

/-- The kinds of the items of a null or unknown tuple that becomes one of another kind. -/
def filledItems : List Kind → List Kind → List Kind
  | own :: owns, item :: items => own.filled item :: filledItems owns items
  | _, items => items

/-- The kinds of the fields of a null or unknown object that becomes one of another kind. -/
def filledFields (kind : Kind) : List (Bytes × Kind) → List (Bytes × Kind)
  | [] => []
  | (name, field) :: rest => (name, (kind.fieldKind name).filled field) :: filledFields kind rest

end

/-- A plain value as one of another kind. -/
def Value.convertPlain (target : Kind) : Value → Option Value
  | .number value =>
    match target with
    | .dynamic | .number => some (.number value)
    | .text => some (.text value.text)
    | _ => none
  | .flag value =>
    match target with
    | .dynamic | .flag => some (.flag value)
    | .text => some (.text (flagText value))
    | _ => none
  | .text value =>
    match target with
    | .dynamic | .text => some (.text value)
    | .number => (Wide.read value).map .number
    | .flag => (readFlag value).map .flag
    | _ => none
  | _ => none

mutual

/-- A value as one of another kind, if it converts; `depth` bounds how deep it is. -/
def Value.convertAt : Nat → Kind → Value → Option Value
  | 0, _, _ => none
  | depth + 1, target, value =>
    if target == .dynamic || value.kind == target then some value
    else if !value.kind.converts target then none
    else
      match value, target with
      | .unknown kind, _ =>
        some (.unknown (if kind == .dynamic then target else kind.filled target))
      | .null kind, _ => some (.null (if kind == .dynamic then target else kind.filled target))
      | .list own [], .list item => some (.list (if item == .dynamic then own else item) [])
      | .map own [], .map item => some (.map (if item == .dynamic then own else item) [])
      | .tuple [], .list item => some (.list item [])
      | .object [], .map item => some (.map item [])
      | .list _ items, .list item => do
        listOf depth false (← items.mapM (Value.convertAt depth item))
      | .tuple items, .list item => do
        let item ← if item == .dynamic then Kind.common true (itemKinds items) else some item
        listOf depth true (← items.mapM (Value.convertAt depth item))
      | .tuple items, .tuple targets =>
        ((items.zip targets).mapM fun (item, target) => Value.convertAt depth target item).map
          .tuple
      | .map _ fields, .map item => do
        mapOf depth false item
          (← fields.mapM fun (name, value) => do return (name, ← Value.convertAt depth item value))
      | .object fields, .map item => do
        let item ← if item == .dynamic then Kind.common true ((fieldKinds fields).map (·.2))
          else some item
        mapOf depth true item
          (← fields.mapM fun (name, value) => do return (name, ← Value.convertAt depth item value))
      | .object fields, .object targets | .map _ fields, .object targets =>
        (targets.mapM fun (name, target) => do
          return (name, ← Value.convertAt depth target (← fields.lookup name))).map .object
      | value, target => value.convertPlain target

/-- A list of values with the kind that they have in common. -/
def listOf : Nat → Bool → List Value → Option Value
  | 0, _, _ => none
  | depth + 1, loose, items => do
    let item ← Kind.common loose (itemKinds items)
    let items ← items.mapM (Value.convertAt depth item)
    if fitTogether (itemKinds items) then some (.list (jointKind (itemKinds items)) items) else none

/-- A map of values, which get the kind that they have in common when they are to be collections or
objects. -/
def mapOf : Nat → Bool → Kind → List (Bytes × Value) → Option Value
  | 0, _, _, _ => none
  | depth + 1, loose, wanted, fields => do
    let kinds (fields : List (Bytes × Value)) : List Kind := (fieldKinds fields).map (·.2)
    let fields ← match wanted.shape with
      | .plain | .tuple => some fields
      | _ => do
        let item ← Kind.common loose (kinds fields)
        fields.mapM fun (name, value) => do return (name, ← Value.convertAt depth item value)
    if fitTogether (kinds fields) then some (.map (jointKind (kinds fields)) fields) else none

end

/-- A value as one of another kind, if it converts. -/
def Value.convert (target : Kind) (value : Value) : Option Value :=
  value.convertAt (2 * value.kind.size + 4) target

mutual

/-- Whether two known values of one kind are equal. -/
def Value.same : Value → Value → Bool
  | .null _, .null _ => true
  | .number a, .number b => a.same b
  | .text a, .text b => a == b
  | .flag a, .flag b => a == b
  | .list _ as, .list _ bs => allSame as bs
  | .tuple as, .tuple bs => allSame as bs
  | .map _ as, .map _ bs => fieldsSame as bs
  | .object as, .object bs => fieldsSame as bs
  | _, _ => false

/-- Whether two lists of values are equal. -/
def allSame : List Value → List Value → Bool
  | [], [] => true
  | a :: as, b :: bs => a.same b && allSame as bs
  | _, _ => false

/-- Whether two lists of fields are equal. -/
def fieldsSame : List (Bytes × Value) → List (Bytes × Value) → Bool
  | [], [] => true
  | (m, a) :: as, (n, b) :: bs => m == n && a.same b && fieldsSame as bs
  | _, _ => false

end

/-- Whether two known values are equal: two nulls are, and otherwise the kinds must agree. -/
def Value.equal (a b : Value) : Bool :=
  (a.isNull && b.isNull) || (a.kind == b.kind && a.same b)

/-- Fields with one more, in byte order of their names; a field of the same name is replaced. -/
def setField (name : Bytes) (value : Value) : List (Bytes × Value) → List (Bytes × Value)
  | [] => [(name, value)]
  | (other, old) :: rest =>
    if name == other then (name, value) :: rest
    else if Bytes.less name other then (name, value) :: (other, old) :: rest
    else (other, old) :: setField name value rest

end Patchbay.Hcl
