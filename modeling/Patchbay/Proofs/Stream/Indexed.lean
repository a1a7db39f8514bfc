import Patchbay.Stream.Read

/-! A reader of definition files by indices: it keeps the whole file and an offset, and it finds
everything else by its index in a table. An index outside of its table leaves it without an
answer. -/

namespace Patchbay.Stream

/-- What reading by indices gives: a value, a fault, or nothing once an index was outside of its
table. -/
abbrev Indexed (α : Type) := ExceptT Fault Option α

/-- An offset in a file, and the name of the definition being read. -/
structure Position where
  offset : Nat
  definition : Bytes

/-- The cursor of a position. -/
def Position.cursor (data : Bytes) (position : Position) : Cursor :=
  ⟨data.drop position.offset, position.offset, position.definition⟩

namespace Indexed

/-- What a look-up finds, if it finds anything. -/
def look {α : Type} (found : Option α) : Indexed α := ExceptT.lift found

/-- The items of a table from one index to another. -/
def slice {α : Type} (items : List α) (start stop : Nat) : Option (List α) :=
  if start ≤ stop ∧ stop ≤ items.length then some ((items.take stop).drop start) else none

/-- A table with another item at an index. -/
def put {α : Type} (table : Array α) (place : Nat) (item : α) : Option (Array α) :=
  if place < table.size then some (table.setIfInBounds place item) else none

/-- Reads a number of bytes. -/
def take (data : Bytes) (position : Position) (what : Bytes) (count : Nat) :
    Indexed (Bytes × Position) :=
  if data.length < position.offset + count then throw ((position.cursor data).short what count)
  else do
    let bytes ← look (slice data position.offset (position.offset + count))
    return (bytes, { position with offset := position.offset + count })

/-- Reads one byte. -/
def byte (data : Bytes) (position : Position) (what : Bytes) : Indexed (UInt8 × Position) := do
  let (bytes, next) ← take data position what 1
  let a ← look bytes[0]?
  return (a, next)

/-- Reads a number of two bytes. -/
def word16 (data : Bytes) (position : Position) (what : Bytes) : Indexed (Nat × Position) := do
  let (bytes, next) ← take data position what 2
  let a ← look bytes[0]?
  let b ← look bytes[1]?
  return (a.toNat * 256 + b.toNat, next)

/-- Reads a number of four bytes. -/
def word32 (data : Bytes) (position : Position) (what : Bytes) : Indexed (Nat × Position) := do
  let (bytes, next) ← take data position what 4
  let a ← look bytes[0]?
  let b ← look bytes[1]?
  let c ← look bytes[2]?
  let d ← look bytes[3]?
  return (((a.toNat * 256 + b.toNat) * 256 + c.toNat) * 256 + d.toNat, next)

/-- Reads a sample value. -/
def single (data : Bytes) (position : Position) (what : Bytes) : Indexed (Single × Position) := do
  let (bits, next) ← word32 data position what
  return (⟨UInt32.ofNat bits⟩, next)

/-- Reads a name after its length. -/
def name (data : Bytes) (position : Position) (what : Bytes) : Indexed (Bytes × Position) := do
  let (size, next) ← byte data position (what ++ " length")
  take data next what size.toNat

/-- Reads a counted list; each reading sees what was read before it. -/
def many {α : Type} (read : Array α → Position → Indexed (α × Position)) :
    Nat → Array α → Position → Indexed (Array α × Position)
  | 0, done, position => return (done, position)
  | count + 1, done, position => do
    let (item, next) ← read done position
    many read count (done.push item) next

/-- Reads an entry of the name table. -/
def readEntry (data : Bytes) (position : Position) : Indexed (NameEntry × Position) := do
  let (text, next) ← name data position "parameter name"
  let (index, next) ← word16 data next "parameter index"
  return (⟨text, index, position.offset⟩, next)

/-- Reads an input of a row: looks up a constant of the table, or an earlier row. -/
def readInput (data : Bytes) (constants : Array Single) (earlier : Array RawNode) (op : Bytes)
    (place : Nat) (position : Position) : Indexed (RawInput × Position) := do
  let row := earlier.size
  let (source, next) ← word16 data position "input node"
  let (index, next) ← word16 data next "input index"
  if source = constantMark then
    if constants.size ≤ index then
      throw ((next.cursor data).nodeFault row op position.offset place
        ("constant " ++ natText index ++ " of " ++ natText constants.size) .badReference)
    else
      let _ ← look constants[index]?
      return (.constant index, next)
  else if 0x8000 ≤ source ∨ row ≤ source then
    throw ((next.cursor data).nodeFault row op position.offset place
      ("node " ++ intText (signed16 source) ++ " is not before node " ++ natText row) .badReference)
  else
    let producer ← look earlier[source]?
    if producer.outputs.size ≤ index then
      throw ((next.cursor data).nodeFault row op position.offset place
        ("output " ++ natText index ++ " of " ++ producer.op ++ ", which has " ++
          natText producer.outputs.size) .badReference)
    else return (.output source index, next)

/-- Reads the rate of an output. -/
def readOutput (data : Bytes) (row : Nat) (op : Bytes) (place : Nat) (position : Position) :
    Indexed (Rate × Position) := do
  let (code, next) ← byte data position "output rate"
  let rate : Rate := ⟨code⟩
  if rate.valid then return (rate, next)
  else throw ((next.cursor data).nodeFault row op position.offset place [] .badRate)

/-- Reads a row of the node table. -/
def readNode (data : Bytes) (constants : Array Single) (parameters : Nat) (earlier : Array RawNode)
    (position : Position) : Indexed (RawNode × Position) := do
  let row := earlier.size
  let (op, afterOp) ← name data position "operator name"
  let (code, next) ← byte data afterOp "node rate"
  let rate : Rate := ⟨code⟩
  if !rate.valid then
    throw ((next.cursor data).nodeFault row op afterOp.offset code.toNat [] .badRate)
  let (inputCount, next) ← word16 data next "input count"
  let (outputCount, next) ← word16 data next "output count"
  let (special, next) ← word16 data next "special index"
  let (inputs, next) ← many
    (fun done place => readInput data constants earlier op done.size place) inputCount #[] next
  let (outputs, next) ← many
    (fun done place => readOutput data row op done.size place) outputCount #[] next
  if isControlOp op && parameters < special + outputCount then
    throw ((next.cursor data).nodeFault row op position.offset special
      ("parameters " ++ natText special ++ ".." ++ natText (special + outputCount) ++ " of " ++
        natText parameters) .badReference)
  return (⟨op, rate, special, inputs, outputs⟩, next)

/-- Reads a definition. -/
def readDefinition (data : Bytes) (start : Position) : Indexed (RawDefinition × Position) := do
  let (text, next) ← name data { start with definition := [] } "definition name"
  let position := { next with definition := text }
  let (count, next) ← word16 data position "constant count"
  let (constants, next) ← many (fun _ place => single data place "constant") count #[] next
  let (parameters, first) ← word16 data next "parameter count"
  let (defaults, next) ← many
    (fun _ place => single data place "parameter default") parameters #[] first
  let (count, next) ← word16 data next "named parameter count"
  let (entries, next) ← many (fun _ place => readEntry data place) count #[] next
  let (count, next) ← word16 data next "node count"
  let (nodes, variantsAt) ← many (readNode data constants parameters) count #[] next
  let (variants, next) ← word16 data variantsAt "variant count"
  if variants ≠ 0 then
    throw { Fault.structural "decode" .unsupportedVariants with
      definition := text
      offset := variantsAt.offset
      context := natText variants ++ " variants" }
  return (⟨text, constants, first.offset, defaults, entries, nodes⟩, next)

/-- Reads the start of a file, up to the number of its definitions. -/
def readHeader (data : Bytes) : Indexed (Nat × Position) := do
  let (mark, next) ← word32 data ⟨0, []⟩ "magic"
  if mark ≠ magic then
    throw ((next.cursor data).fault 0 ("got 0x" ++ hexText 8 mark) .badMagic)
  let (number, next) ← word32 data next "version"
  if number ≠ version then
    let signed : Int := if number < 0x80000000 then number else (number : Int) - 0x100000000
    throw ((next.cursor data).fault 4 ("version " ++ intText signed) .badVersion)
  word16 data next "definition count"

/-- Lets the outputs of a control node own the parameters from a place on that have no owner. -/
def claim : Nat → List Rate → Owners → Option Owners
  | _, [], owners => return owners
  | place, rate :: rest, owners => do
    let owner ← owners[place]?
    let owners ← put owners place (some (owner.getD rate))
    claim (place + 1) rest owners

/-- The owners of the parameters of a definition. -/
def owners (raw : RawDefinition) : Option Owners :=
  raw.nodes.toList.foldlM
    (fun owners node =>
      if isControlOp node.op then claim node.special node.outputs.toList owners else return owners)
    (Array.replicate raw.defaults.size none)

/-- Gives a parameter its name, or tells why not. -/
def label (owners : Owners) (labels : Array Bytes) (entry : NameEntry) :
    Option (Array Bytes × Option Diagnostic) :=
  if owners.size ≤ entry.index then
    return (labels, some (.orphanName entry.name entry.index entry.offset))
  else do
    let owner ← owners[entry.index]?
    if owner.isNone then return (labels, some (.orphanName entry.name entry.index entry.offset))
    else
      let known ← labels[entry.index]?
      if known ≠ [] then return (labels, some (.duplicateName entry.name entry.index entry.offset))
      else
        let labels ← put labels entry.index entry.name
        return (labels, none)

/-- The names of the parameters, and what is wrong with the name table. -/
def labelAll (owners : Owners) (entries : List NameEntry) :
    Option (Array Bytes × List Diagnostic) :=
  entries.foldlM
    (fun state entry => do
      let (labels, diagnostic) ← label owners state.1 entry
      return (labels, state.2 ++ diagnostic.toList))
    (Array.replicate owners.size [], [])

/-- The parameters packed so far: how many of them stand before each, those that a control node
owns, and what is wrong with the others. -/
structure Packed where
  before : Array Nat
  controls : Array Descriptor
  orphans : List Diagnostic

/-- Packs one more parameter. -/
def pack (raw : RawDefinition) (owners : Owners) (labels : Array Bytes) (packed : Packed)
    (place : Nat) :
    Option Packed := do
  let before ← put packed.before place packed.controls.size
  match ← owners[place]? with
  | none =>
    let orphan := .orphanParameter place (raw.parametersAt + 4 * place)
    return ⟨before, packed.controls, packed.orphans ++ [orphan]⟩
  | some rate =>
    let name ← labels[place]?
    let default ← raw.defaults[place]?
    return ⟨before, packed.controls.push ⟨name, rate, default, .zero⟩, packed.orphans⟩

/-- Packs all parameters. The counts have a place more than there are parameters, for the end of the
table. -/
def packAll (raw : RawDefinition) (owners : Owners) (labels : Array Bytes) : Option Packed := do
  let packed ← (List.range raw.defaults.size).foldlM (pack raw owners labels)
    ⟨Array.replicate (raw.defaults.size + 1) 0, #[], []⟩
  let before ← put packed.before raw.defaults.size packed.controls.size
  return { packed with before := before }

/-- The descriptor for an output of a control node, among those that start with its own. -/
def describe (own : List Descriptor) (output : Rate × Nat) : Option Descriptor := do
  let descriptor ← own[output.2]?
  return { descriptor with rate := output.1 }

/-- The node and the row of the node table for a row in a file: a control node takes its descriptors
from the part of the packed parameters that starts with its own. -/
def resolveNode (raw : RawNode) (row : Nat) (before : Array Nat) (controls : Array Descriptor) :
    Option (Node × Placed) := do
  let inputs := raw.inputs.toList.map RawInput.source
  if isControlOp raw.op then
    let place ← before[raw.special]?
    let own ← slice controls.toList place controls.size
    let descriptors ← raw.outputs.toList.zipIdx.mapM (describe own)
    return (⟨raw.op, raw.rate, inputs, raw.outputs, 0, some descriptors⟩, ⟨row, place⟩)
  else return (⟨raw.op, raw.rate, inputs, raw.outputs, raw.special, none⟩, ⟨row, raw.special⟩)

/-- What is wrong with the names and parameters of a definition in a file, and the definition that
it stands for. -/
def resolve (raw : RawDefinition) : Option (List Diagnostic × Definition) := do
  let owners ← owners raw
  let (labels, found) ← labelAll owners raw.entries.toList
  let packed ← packAll raw owners labels
  let resolved ← raw.nodes.toList.zipIdx.mapM fun node =>
    resolveNode node.1 node.2 packed.before packed.controls
  return (found ++ packed.orphans,
    { name := raw.name
      graph := ⟨(resolved.map Prod.fst).toArray, raw.constants⟩
      nodes := resolved.map Prod.snd
      constants := List.range raw.constants.size
      controls := packed.controls.toList
      dedup := .identity })

/-- Reads the given number of definitions and the end of the file. -/
def readDefinitions (strict : Bool) (data : Bytes) (total : Nat) :
    Nat → Array Definition → Position → Indexed (List Definition)
  | 0, done, position =>
    if position.offset < data.length then
      throw { Fault.format "decode" .trailingData with
        offset := position.offset
        context := natText (data.length - position.offset) ++ " bytes after definition " ++
          natText total }
    else return done.toList
  | count + 1, done, position => do
    let (raw, next) ← readDefinition data position
    let (diagnostics, definition) ← look (resolve raw)
    match diagnostics, strict with
    | diagnostic :: _, true => throw (diagnostic.fault raw.name)
    | _, _ => readDefinitions strict data total count (done.push definition) next

/-- Reads the definitions of a file. -/
def decode (strict : Bool) (data : Bytes) : Indexed (List Definition) := do
  let (count, position) ← readHeader data
  readDefinitions strict data count count #[] position

end Indexed

end Patchbay.Stream
