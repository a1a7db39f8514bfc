import Patchbay.Bytes

/-! The kinds of HCL values, which kinds convert to which, and the kind that several kinds have in
common. -/

namespace Patchbay.Hcl

/-- The kind of a value; `dynamic` is the kind of a value about which nothing is known. -/
inductive Kind where
  | dynamic
  | number
  | text
  | flag
  | list (item : Kind)
  | map (item : Kind)
  | tuple (items : List Kind)
  | object (fields : List (Bytes × Kind))
  deriving BEq, Repr

/-- What a kind is called. -/
def Kind.name : Kind → Bytes
  | .dynamic => "dynamic"
  | .number => "number"
  | .text => "string"
  | .flag => "bool"
  | .list item => "list of " ++ item.name
  | .map item => "map of " ++ item.name
  | .tuple _ => "tuple"
  | .object _ => "object"

mutual

/-- The number of kinds in a kind. -/
def Kind.size : Kind → Nat
  | .list item => item.size + 1
  | .map item => item.size + 1
  | .tuple items => kindsSize items + 1
  | .object fields => fieldsSize fields + 1
  | _ => 1

/-- The number of kinds in some kinds. -/
def kindsSize : List Kind → Nat
  | [] => 0
  | kind :: rest => kind.size + kindsSize rest

/-- The number of kinds in the fields of an object. -/
def fieldsSize : List (Bytes × Kind) → Nat
  | [] => 0
  | (_, kind) :: rest => kind.size + fieldsSize rest

end

/-- Whether fields have the same names; they are in order. -/
def sameNames (a b : List (Bytes × Kind)) : Bool := a.map (·.1) == b.map (·.1)

/-- The verdict of several comparisons: they must not contradict each other. -/
def agreed (verdicts : List Ordering) : Ordering :=
  match verdicts.contains .lt, verdicts.contains .gt with
  | true, false => .lt
  | false, true => .gt
  | _, _ => .eq

/-- Which of two kinds is rather the common one: `dynamic` is not, a text is rather than any other
plain kind, and lists and maps are rather than tuples and objects. -/
def Kind.prefers : Nat → Kind → Kind → Ordering
  | 0, _, _ => .eq
  | depth + 1, a, b =>
    match a, b with
    | .dynamic, .dynamic => .eq
    | .dynamic, _ => .gt
    | _, .dynamic => .lt
    | .text, .number | .text, .flag => .lt
    | .number, .text | .flag, .text => .gt
    | .list a, .list b | .map a, .map b => a.prefers depth b
    | .list _, .tuple _ | .map _, .object _ => .lt
    | .tuple _, .list _ | .object _, .map _ => .gt
    | .tuple as, .tuple bs =>
      if as.length = bs.length then agreed ((as.zip bs).map fun (a, b) => a.prefers depth b)
      else .eq
    | .object as, .object bs =>
      if sameNames as bs then agreed ((as.zip bs).map fun ((_, a), (_, b)) => a.prefers depth b)
      else .eq
    | _, _ => .eq

/-- Visits places so that each comes after all that go before it; `queue` are those that can be
visited now. -/
def visit (goesBefore : Nat → Nat → Bool) (places : List Nat) : Nat → List Nat → List Nat → List Nat
  | 0, _, visited => visited
  | _ + 1, [], visited => visited
  | steps + 1, next :: queue, visited =>
    let visited := visited ++ [next]
    let freed := places.filter fun place =>
      goesBefore next place && places.all fun other => !goesBefore other place ||
        visited.contains other
    visit goesBefore places steps (queue ++ freed) visited

/-- Kinds in the order in which they are tried as the common one. -/
def Kind.candidates (depth : Nat) (kinds : List Kind) : List Kind :=
  let places := List.range kinds.length
  let goesBefore (i j : Nat) : Bool :=
    match kinds[i]?, kinds[j]? with
    | some a, some b => i != j &&
        (if i < j then a.prefers depth b == .lt else b.prefers depth a == .gt)
    | _, _ => false
  let first := places.filter fun place => places.all fun other => !goesBefore other place
  (visit goesBefore places kinds.length first []).filterMap (kinds[·]?)

/-- The shapes that kinds have when their items are left aside. -/
inductive Shape where
  | plain
  | list
  | map
  | tuple
  | object
  deriving DecidableEq, Repr

/-- The shape of a kind. -/
def Kind.shape : Kind → Shape
  | .list _ => .list
  | .map _ => .map
  | .tuple _ => .tuple
  | .object _ => .object
  | _ => .plain

/-- The kinds directly inside a kind. -/
def Kind.inner : Kind → List Kind
  | .list item | .map item => [item]
  | .tuple items => items
  | .object fields => fields.map (·.2)
  | _ => []

/-- The kind of the field with a name. -/
def Kind.fieldKind (name : Bytes) : Kind → Kind
  | .object fields => (fields.lookup name).getD .dynamic
  | _ => .dynamic

mutual

/-- Whether values of one kind may convert to another. A `loose` conversion may still fail for some
values: a text converts to a number only when it reads as one. -/
def Kind.reaches (loose : Bool) : Nat → Kind → Kind → Bool
  | 0, _, _ => false
  | depth + 1, a, b =>
    a == b ||
    match a, b with
    | _, .dynamic => true
    | .dynamic, _ => loose
    | .number, .text | .flag, .text => true
    | .text, .number | .text, .flag => loose
    | .list a, .list b | .map a, .map b => a.reaches loose depth b
    | .tuple as, .tuple bs =>
      as.length == bs.length && (as.zip bs).all fun (a, b) => a.reaches loose depth b
    | .object as, .object bs =>
      bs.all fun (name, b) => (as.lookup name).any fun a => a.reaches loose depth b
    | .map a, .object bs => loose && bs.all fun (_, b) => a.reaches loose depth b
    | .tuple as, .list b =>
      match itemKind loose depth as b with
      | some item => (item != .dynamic || as.all (· == .dynamic)) && as.all fun a =>
        a.reaches loose depth item
      | none => false
    | .object as, .map b =>
      match itemKind loose depth (as.map (·.2)) b with
      | some item => as.all fun (_, a) => a.reaches loose depth item
      | none => false
    | _, _ => false

/-- The kind of the items when values of some kinds become the items of a list or map of a kind: if
that one is `dynamic`, they get the kind that they have in common. -/
def itemKind (loose : Bool) : Nat → List Kind → Kind → Option Kind
  | 0, _, _ => none
  | depth + 1, kinds, wanted =>
    if wanted == .dynamic && !kinds.isEmpty then unify loose depth kinds else some wanted

/-- A kind that all of some kinds convert to. -/
def unify (loose : Bool) : Nat → List Kind → Option Kind
  | 0, _ => none
  | depth + 1, kinds =>
    let kinds := kinds.eraseDups
    let sure := kinds.filter (· != .dynamic)
    let unsure := sure.length < kinds.length
    let only (shapes : List Shape) : Bool :=
      !sure.isEmpty && sure.all fun kind => shapes.contains kind.shape
    if only [.map] then if unsure then some .dynamic else unifyItems loose depth .map kinds
    else if only [.list] then if unsure then some .dynamic else unifyItems loose depth .list kinds
    else if only [.object] then if unsure then some .dynamic else unifyObjects loose depth kinds
    else if only [.tuple] then if unsure then some .dynamic else unifyTuples loose depth kinds
    else if only [.map, .object] then
      (unifyAs loose depth .map .object kinds).orElse fun _ => unifyPlain loose depth kinds
    else if only [.list, .tuple] then
      (unifyAs loose depth .list .tuple kinds).orElse fun _ => unifyPlain loose depth kinds
    else if sure.any (·.shape == .object) && sure.any (·.shape == .tuple) then none
    else unifyPlain loose depth kinds

/-- One of some kinds that all of them convert to. -/
def unifyPlain (loose : Bool) : Nat → List Kind → Option Kind
  | 0, _ => none
  | depth + 1, kinds =>
    (Kind.candidates depth kinds).find? fun target => kinds.all fun kind =>
      kind.reaches loose depth target

/-- The list or map of a kind that all kinds inside some kinds convert to. -/
def unifyItems (loose : Bool) : Nat → (Kind → Kind) → List Kind → Option Kind
  | 0, _, _ => none
  | depth + 1, collection, kinds => do
    let item ← unify loose depth (kinds.flatMap (·.inner))
    let target := collection item
    if kinds.all fun kind => kind.reaches loose depth target then some target else none

/-- The kind of lists and tuples, or of maps and objects, where the latter are taken for the
former. -/
def unifyAs (loose : Bool) : Nat → (Kind → Kind) → Shape → List Kind → Option Kind
  | 0, _, _, _ => none
  | depth + 1, collection, shape, kinds => do
    let changed ← unifyItems loose depth collection (kinds.filter (·.shape == shape))
    let target ← unify loose depth
      (kinds.map fun kind => if kind.shape == shape then changed else kind)
    if target.shape == changed.shape then some target else none

/-- The kind of objects: an object when they have the same names, and a map otherwise. -/
def unifyObjects (loose : Bool) : Nat → List Kind → Option Kind
  | 0, _ => none
  | depth + 1, kinds =>
    match kinds with
    | .object fields :: rest =>
      if rest.all fun | .object others => sameNames fields others | _ => false then do
        let fields ← fields.mapM fun (name, _) => do
          return (name, ← unify loose depth (kinds.map (·.fieldKind name)))
        let common := .object fields
        if kinds.all fun kind => kind.reaches loose depth common then some common else none
      else unifyItems loose depth .map kinds
    | _ => none

/-- The kind of tuples: a tuple when they have the same length, and a list otherwise. -/
def unifyTuples (loose : Bool) : Nat → List Kind → Option Kind
  | 0, _ => none
  | depth + 1, kinds =>
    match kinds with
    | .tuple items :: rest =>
      if rest.all fun | .tuple others => items.length == others.length | _ => false then do
        let items ← (List.range items.length).mapM fun i =>
          unify loose depth (kinds.map fun kind => kind.inner[i]?.getD .dynamic)
        if kinds.all fun kind => kind.reaches loose depth (.tuple items) then some (.tuple items)
        else none
      else unifyItems loose depth .list kinds
    | _ => none

end

/-- A depth that no walk over some kinds exceeds. -/
def walkDepth (kinds : List Kind) : Nat := 4 * kindsSize kinds + 8

/-- Whether values of one kind may convert to another. -/
def Kind.converts (a b : Kind) : Bool := a.reaches true (walkDepth [a, b]) b

/-- A kind that all of some kinds convert to, by conversions that may fail for some values when
`loose`. -/
def Kind.common (loose : Bool) (kinds : List Kind) : Option Kind :=
  unify loose (walkDepth kinds) kinds

end Patchbay.Hcl
