import Patchbay.Duration
import Patchbay.Single
import Patchbay.Text.Base64
import Patchbay.Text.Quote
import Patchbay.Yaml.Node

/-! From nodes to records. A value that does not suit its field is noted with its line, and reading
goes on, so that all such values are reported together. -/

namespace Patchbay.Yaml

/-- Why a text gives no record. -/
inductive Error where
  /-- The text is no YAML. -/
  | malformed (malformed : Malformed)
  /-- Values do not suit their fields. -/
  | mismatches (lines : List Bytes)
  /-- A value was refused by the reader of its field. -/
  | refused (message : Bytes)
  /-- There is no document. -/
  | noDocument
  /-- A collection is a key where keys have to be told apart, which has no answer for
  collections. -/
  | collectionKey
  deriving DecidableEq, Repr

/-- The text of an error. -/
def Error.message : Error → Bytes
  | .malformed problem => problem.message
  | .mismatches lines => "yaml: unmarshal errors:\n  " ++ Bytes.join "\n  " lines
  | .refused message => message
  | .noDocument => "EOF"
  | .collectionKey => "runtime error: hash of unhashable type"

/-- How far the reading of a document has come. -/
structure Tally where
  /-- The mismatches so far, the last one first. -/
  notes : List Bytes
  /-- How many nodes were read, and how many of them behind aliases. -/
  read : Nat
  aliased : Nat
  /-- The aliases that are being followed. -/
  followed : List Nat
  /-- The texts among the keys that the mapping at hand must not set, when it is merged into
  another. -/
  met : Option (List Bytes)

/-- The state before a document is read, which counts as a node itself. -/
def Tally.start : Tally := ⟨[], 1, 0, [], none⟩

/-- Whether too many of the nodes were read behind aliases: more than 99 of 100, and of a very large
document more than one of 10. -/
def Tally.isExcessive (tally : Tally) : Bool :=
  -- The share falls evenly between 400 000 and 4 000 000 nodes.
  let share := 99 * 3600000 - 89 * (min tally.read 4000000 - 400000)
  100 < tally.aliased && 1000 < tally.read && tally.read * share < tally.aliased * 360000000

/-- A step of reading a record. -/
abbrev Decode := StateT Tally (Except Error)

/-- How a field is read from a node that is no alias into its value so far, and whether that
succeeded. The anchored nodes of the document are at hand. -/
abbrev Slot (α : Type) := Array Node → α → Node → Decode (α × Bool)

namespace Decode

/-- Notes a mismatch on a line. -/
def note (line : Nat) (text : Bytes) : Decode Unit :=
  modify fun tally =>
    { tally with notes := ("line " ++ natText line ++ ": " ++ text) :: tally.notes }

/-- Gives up a document that cannot be read at all. -/
def giveUp {α : Type} (line : Nat) (problem : Bytes) : Decode α :=
  throw (.malformed ⟨line, problem⟩)

/-- A value as it is shown in a mismatch: the first characters of a long one. -/
def shownValue (tag value : Bytes) : Bytes :=
  if tag = utf8 "!!seq" || tag = utf8 "!!map" then value
  else if 10 < value.length then " `" ++ value.take 7 ++ "...`"
  else " `" ++ value ++ "`"

/-- Notes that a value does not suit a type. -/
def mismatch (line : Nat) (tag value type : Bytes) : Decode Unit :=
  note line ("cannot unmarshal " ++ tag ++ shownValue tag value ++ " into " ++ type)

/-- The node that an alias stands for. An anchored node is never itself an alias. -/
def target (anchored : Array Node) : Node → Node
  | .alias line name n _ => anchored[n]?.getD (.scalar line name [])
  | node => node

/-- Counts a node, and gives up when too many of them are read behind aliases. -/
def count (line : Nat) : Decode Unit := do
  modify fun tally => { tally with
    read := tally.read + 1
    aliased := if tally.followed.isEmpty then tally.aliased else tally.aliased + 1 }
  if (← get).isExcessive then giveUp line "document contains excessive aliasing"

/-- Reads a node, or the node that it stands for when it is an alias. -/
def follow {β : Type} (anchored : Array Node) (read : Node → Decode β) (node : Node) :
    Decode β := do
  count node.line
  match node with
  | .alias line name _ occurrence =>
    if (← get).followed.contains occurrence then
      giveUp line ("anchor '" ++ name ++ "' value contains itself")
    modify fun tally => { tally with followed := occurrence :: tally.followed }
    count line
    let result ← read (target anchored node)
    modify fun tally => { tally with followed := tally.followed.tail }
    return result
  | _ => read node

/-- The value of a scalar. -/
def scalarValue (line : Nat) (tag value : Bytes) : Decode Value :=
  if tag = utf8 "!!binary" then
    match Text.decodeBase64 value with
    | some data => return .text data
    | none => giveUp line "!!binary value contains invalid base64 data"
  else
    match taggedValue? tag value with
    | some found => return found
    | none => giveUp line ("cannot decode `" ++ value ++ "` as a " ++ tag)

/-- Whether two keys count as the same: of one kind and with one text. -/
def sameKey : Node → Node → Bool
  | .scalar _ _ a, .scalar _ _ b => a == b
  | .alias _ a _ _, .alias _ b _ _ => a == b
  | .sequence .., .sequence .. => true
  | .mapping .., .mapping .. => true
  | _, _ => false

/-- The text of a key, as far as it has one. -/
def keyLabel : Node → Bytes
  | .scalar _ _ value => value
  | .alias _ name _ _ => name
  | _ => []

/-- Notes the keys that are there more than once. -/
def noteRepeats : List Node → Decode Bool
  | [] => return false
  | key :: rest => do
    let again := rest.filter (sameKey key)
    for other in again do
      note other.line
        ("mapping key " ++ Text.quote (keyLabel other) ++ " already defined at line " ++
        natText key.line)
    return (← noteRepeats rest) || !again.isEmpty

/-- Notes that a collection does not suit a type. -/
def refuse (type : Bytes) : Node → Decode Unit
  | .sequence line tag _ => mismatch line tag [] type
  | .mapping line tag entries => do
    if !(← noteRepeats (entries.map Prod.fst)) then mismatch line tag [] type
  | _ => return

/-- A field that takes scalars of some values; nothing changes for a null. -/
def scalar {α : Type} (type : Bytes) (take : Bytes → Value → Option α) : Slot α :=
  fun _ current node => do
    match node with
    | .scalar line tag text =>
      match ← scalarValue line tag text with
      | .null => return (current, false)
      | value =>
        let written := match value with
          | .text data => data
          | _ => text
        match take written value with
        | some taken => return (taken, true)
        | none =>
          mismatch line tag text type
          return (current, false)
    | other =>
      refuse type other
      return (current, false)

/-- A field for a text, which takes any scalar as it is written. -/
def text : Slot Bytes := scalar "string" fun written _ => some written

/-- The integer that a number is cut to. Numbers outside the range of 64 bits all give the least
one. -/
def cutInteger : Binary → Option Int
  | .notANumber => none
  | .infinite negative => if negative then some (-wordLimit) else none
  | number =>
    let whole := number.truncate
    if fitsWord whole then some whole
    else if whole ≤ wordLimit then some (-wordLimit)
    else none

/-- A field for an integer. -/
def integer : Slot Int := scalar "int" fun _ value =>
  match value with
  | .integer n => if fitsWord n then some n else none
  | .real number => cutInteger number
  | _ => none

/-- A field for a sample value. -/
def single : Slot Single := scalar "float32" fun _ value =>
  match value with
  | .integer n => some (.ofBinary (Binary.ofInt .double n))
  | .real number => some (.ofBinary number)
  | _ => none

/-- A field for a truth value. -/
def flag : Slot Bool := scalar "bool" fun _ value =>
  match value with
  | .flag value => some value
  | .text word =>
    if ["y", "Y", "yes", "Yes", "YES", "on", "On", "ON"].any fun other => utf8 other == word then
      some true
    else if ["n", "N", "no", "No", "NO", "off", "Off", "OFF"].any fun other =>
      utf8 other == word then some false
    else none
  | _ => none

/-- A field for a duration. -/
def duration : Slot Duration := scalar "time.Duration" fun _ value =>
  match value with
  | .text word => (Duration.read word).toOption
  | _ => none

/-- Whether a node is marked as a null. -/
def isNull (node : Node) : Bool := node.tag == Value.null.tag

/-- A field that may be left open. A collection that is marked as a null does not suit it. -/
def optional {α : Type} (type : Bytes) (start : α) (slot : Slot α) : Slot (Option α) :=
  fun anchored current node => do
    if isNull node then
      match node with
      | .scalar line tag text =>
        discard (scalarValue line tag text)
        return (none, true)
      | other =>
        refuse type other
        return (current, false)
    else
      let (value, good) ← slot anchored (current.getD start) node
      return (some value, good)

/-- Reads the items of a list one after another and keeps those that succeed. -/
def items {α : Type} (start : α) (slot : Slot α) (anchored : Array Node) :
    List Node → Decode (List α)
  | [] => return []
  | node :: rest => do
    let (value, good) ← follow anchored (slot anchored start) node
    let values ← items start slot anchored rest
    return if good then value :: values else values

/-- A field for a list. No list and an empty list are told apart. -/
def list {α : Type} (type : Bytes) (start : α) (slot : Slot α) : Slot (Option (List α)) :=
  fun anchored current node => do
    match node with
    | .sequence _ _ nodes => return (some (← items start slot anchored nodes), true)
    | .scalar line tag text =>
      match ← scalarValue line tag text with
      | .null => return (none, true)
      | _ =>
        mismatch line tag text type
        return (current, false)
    | other =>
      refuse type other
      return (current, false)

/-- A kind of record: its name, whether it takes only the keys it knows, and its fields. -/
structure Shape (α : Type) where
  type : Bytes
  closed : Bool
  fields : List (Bytes × Slot α)

/-- A field of a record that is read into a part of it. -/
def part {α β : Type} (get : α → β) (put : α → β → α) (slot : Slot β) : Slot α :=
  fun anchored value node => do
    let (inner, good) ← slot anchored (get value) node
    return (put value inner, good)

/-- Whether a key stands for the entries of another mapping. -/
def isMerge : Node → Bool
  | .scalar _ tag value => value == utf8 "<<" && tag == Value.merge.tag
  | _ => false

/-- The complaint about a merge of something that is no mapping. -/
def wantMap {α : Type} (line : Nat) : Decode α :=
  giveUp line "map merge requires map or sequence of maps as the value"

/-- Sets the keys that the next mapping must not set. -/
def setMet (met : Option (List Bytes)) : Decode Unit :=
  modify fun tally => { tally with met := met }

/-- What any value is as a key. -/
inductive Key where
  | text (text : Bytes)
  | other
  | collection

/-- Takes down the keys of a mapping that others are merged into. -/
def meetKeys (anchored : Array Node) (read : Node → Decode (Key × Bool)) :
    List (Node × Node) → Decode Unit
  | [] => return
  | (key, _) :: rest => do
    match ← follow anchored read key with
    | (.text text, true) => modify fun tally => { tally with met := tally.met.map (text :: ·) }
    | (.collection, true) => throw .collectionKey
    | _ => pure ()
    meetKeys anchored read rest

/-- Merges the mappings that a node stands for into what a mapping with some entries has given. -/
def merge {β : Type} (anchored : Array Node) (readKey : Node → Decode (Key × Bool))
    (into : β → Node → Decode β)
    (entries : List (Node × Node)) (source : Node) (value : β) : Decode β := do
  let outermost := (← get).met.isNone
  if outermost then
    setMet (some [])
    meetKeys anchored readKey entries
  let sources := match source with
    | .sequence _ _ nodes => nodes
    | _ => [source]
  let value ← sources.foldlM
    (fun value source =>
      match target anchored source with
      | .mapping .. => follow anchored (into value) source
      | _ => wantMap source.line) value
  if outermost then setMet none
  return value

/-- The node behind the last merge key. -/
def mergeSource? (entries : List (Node × Node)) : Option Node :=
  ((entries.filter fun (key, _) => isMerge key).getLast?).map Prod.snd

/-- Whether a key takes part in a mapping, given the keys that it must not set. -/
def admitKey (line : Nat) (met : Option (List Bytes)) : Key → Decode Bool
  | .text text => return !met.any (·.contains text)
  | .other => return true
  | .collection => if met.isSome then throw .collectionKey else giveUp line "invalid map key"

/-- The keys that must not be set after a key was. -/
def meet (met : Option (List Bytes)) : Key → Option (List Bytes)
  | .text text => met.map (text :: ·)
  | _ => met

/-- Reads the entries of a mapping that may hold any values. -/
def looseEntries (anchored : Array Node) (readKey readValue : Node → Decode (Key × Bool)) :
    List (Node × Node) → Option (List Bytes) → Decode (Option (List Bytes))
  | [], met => return met
  | (key, value) :: rest, met => do
    if isMerge key then looseEntries anchored readKey readValue rest met
    else
      match ← follow anchored readKey key with
      | (found, true) =>
        if ← admitKey key.line met found then
          discard (follow anchored readValue value)
          looseEntries anchored readKey readValue rest (meet met found)
        else looseEntries anchored readKey readValue rest met
      | (_, false) => looseEntries anchored readKey readValue rest met

/-- Reads a text as a key. -/
def textKey (anchored : Array Node) (node : Node) : Decode (Key × Bool) := do
  let (found, good) ← text anchored [] node
  return (.text found, good)

/-- Reads a node as any value. A mapping whose keys are all texts reads them as such; one that is
merged into another reads its keys as that one does. -/
def loose (anchored : Array Node) : Nat → Option Bool → Node → Decode (Key × Bool)
  | 0, _, node => giveUp node.line "exceeded the depth of the document"
  | fuel + 1, texts, node => do
    match node with
    | .scalar line tag value =>
      match ← scalarValue line tag value with
      | .text found => return (.text found, true)
      | _ => return (.other, true)
    | .mapping _ _ entries =>
      if ← noteRepeats (entries.map Prod.fst) then return (.collection, false)
      let allTexts := entries.all fun (key, _) =>
        let tag := (target anchored key).tag
        tag == utf8 "!!str" || tag == Value.merge.tag
      let texts := texts.getD allTexts
      let readKey := if texts then textKey anchored else loose anchored fuel none
      let met := (← get).met
      setMet none
      setMet (← looseEntries anchored readKey (loose anchored fuel none) entries met)
      match mergeSource? entries with
      | none => return (.collection, true)
      | some source =>
        merge anchored (loose anchored fuel none)
          (fun _ source => discard (loose anchored fuel (some texts) source)) entries source ()
        return (.collection, true)
    | .sequence _ _ nodes =>
      nodes.forM fun node => discard (follow anchored (loose anchored fuel none) node)
      return (.collection, true)
    | .alias .. => return (.other, false)

/-- Reads the entries of a mapping into a record. Keys that must not be set are passed over. -/
def entries {α : Type} (shape : Shape α) (anchored : Array Node) : List (Node × Node) → List Bytes →
    Option (List Bytes) → α → Decode (α × Option (List Bytes))
  | [], _, met, value => return (value, met)
  | (key, node) :: rest, done, met, value => do
    if isMerge key then entries shape anchored rest done met value
    else
      let (name, good) ← follow anchored (text anchored []) key
      if !good || met.any (·.contains name) then entries shape anchored rest done met value
      else
        let met := met.map (name :: ·)
        match shape.fields.lookup name with
        | some slot =>
          if done.contains name then
            note key.line ("field " ++ name ++ " already set in type " ++ shape.type)
            entries shape anchored rest done met value
          else
            let (value, _) ← follow anchored (slot anchored value) node
            entries shape anchored rest (name :: done) met value
        | none =>
          if shape.closed then
            note key.line ("field " ++ name ++ " not found in type " ++ shape.type)
          entries shape anchored rest done met value

/-- Reads a node into a record. -/
def recordInto {α : Type} (shape : Shape α) (anchored : Array Node) :
    Nat → α → Node → Decode (α × Bool)
  | 0, _, node => giveUp node.line "exceeded the depth of the document"
  | fuel + 1, value, node => do
    match node with
    | .scalar line tag text =>
      match ← scalarValue line tag text with
      | .null => return (value, false)
      | _ =>
        mismatch line tag text shape.type
        return (value, false)
    | .mapping _ _ pairs =>
      if ← noteRepeats (pairs.map Prod.fst) then return (value, false)
      let met := (← get).met
      setMet none
      let (value, met) ← entries shape anchored pairs [] met value
      setMet met
      match mergeSource? pairs with
      | none => return (value, true)
      | some source =>
        let value ← merge anchored (loose anchored (fuel + 1) none)
          (fun value source => Prod.fst <$> recordInto shape anchored fuel value source) pairs
            source value
        return (value, true)
    | other =>
      refuse shape.type other
      return (value, false)

/-- How deep merges and collections in keys may be nested. -/
def depthLimit : Nat := 10001

/-- A field for a record. -/
def record {α : Type} (shape : Shape α) : Slot α :=
  fun anchored => recordInto shape anchored depthLimit

end Decode

/-- Reads a document into a record that starts from given values. -/
def decode {α : Type} (slot : Slot α) (start : α) (document : Document) : Except Error α := do
  let ((value, _), tally) ←
    (Decode.follow document.anchored (slot document.anchored start) document.root).run .start
  if tally.notes.isEmpty then return value else throw (.mismatches tally.notes.reverse)

end Patchbay.Yaml
