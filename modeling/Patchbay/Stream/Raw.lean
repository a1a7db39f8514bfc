import Patchbay.Fault.Basic
import Patchbay.Rate
import Patchbay.Single
import Patchbay.Stream.Write

/-! Reading definition files as they stand: tables of numbers and names, checked for sound
references. -/

namespace Patchbay.Stream

/-- A place in a file: the bytes from there on, their offset, and the name of the definition being
read. -/
structure Cursor where
  rest : Bytes
  offset : Nat
  definition : Bytes

namespace Cursor

/-- A fault of reading. -/
def fault (cursor : Cursor) (offset : Nat) (context : Bytes) (cause : Cause) : Fault :=
  { Fault.format "decode" cause with
    definition := cursor.definition
    offset := offset
    context := context }

/-- The fault of a file that ends too early. -/
def short (cursor : Cursor) (what : Bytes) (need : Nat) : Fault :=
  cursor.fault cursor.offset
    ("reading " ++ what ++ ": need " ++ natText need ++ " bytes, have " ++
      natText cursor.rest.length)
    .truncated

/-- Reads one byte. -/
def byte (cursor : Cursor) (what : Bytes) : Except Fault (UInt8 × Cursor) :=
  match cursor.rest with
  | a :: rest => .ok (a, { cursor with rest := rest, offset := cursor.offset + 1 })
  | _ => .error (cursor.short what 1)

/-- Reads a number of two bytes. -/
def word16 (cursor : Cursor) (what : Bytes) : Except Fault (Nat × Cursor) :=
  match cursor.rest with
  | a :: b :: rest =>
    .ok (a.toNat * 256 + b.toNat, { cursor with rest := rest, offset := cursor.offset + 2 })
  | _ => .error (cursor.short what 2)

/-- Reads a number of four bytes. -/
def word32 (cursor : Cursor) (what : Bytes) : Except Fault (Nat × Cursor) :=
  match cursor.rest with
  | a :: b :: c :: d :: rest =>
    .ok (((a.toNat * 256 + b.toNat) * 256 + c.toNat) * 256 + d.toNat,
      { cursor with rest := rest, offset := cursor.offset + 4 })
  | _ => .error (cursor.short what 4)

/-- Reads a sample value. -/
def single (cursor : Cursor) (what : Bytes) : Except Fault (Single × Cursor) :=
  match cursor.word32 what with
  | .error fault => .error fault
  | .ok (bits, next) => .ok (⟨UInt32.ofNat bits⟩, next)

/-- Reads a name after its length. -/
def name (cursor : Cursor) (what : Bytes) : Except Fault (Bytes × Cursor) :=
  match cursor.byte (what ++ " length") with
  | .error fault => .error fault
  | .ok (size, next) =>
    let text := next.rest.take size.toNat
    if text.length < size.toNat then .error (next.short what size.toNat)
    else
      .ok (text, { next with
        rest := next.rest.drop size.toNat
        offset := next.offset + size.toNat })

/-- Reads a counted list; each reading sees what was read before it. -/
def many {α : Type} (read : Array α → Cursor → Except Fault (α × Cursor)) :
    Nat → Array α → Cursor → Except Fault (Array α × Cursor)
  | 0, done, cursor => .ok (done, cursor)
  | count + 1, done, cursor =>
    match read done cursor with
    | .error fault => .error fault
    | .ok (item, next) => many read count (done.push item) next

end Cursor

/-- An input as it stands in a file. -/
inductive RawInput where
  | constant (slot : Nat)
  | output (row : Nat) (slot : Nat)
  deriving DecidableEq, Repr

/-- A row of the node table as it stands in a file. -/
structure RawNode where
  op : Bytes
  rate : Rate
  special : Nat
  inputs : Array RawInput
  outputs : Array Rate
  deriving DecidableEq, Repr

/-- An entry of the name table, with its offset in the file. -/
structure NameEntry where
  name : Bytes
  index : Nat
  offset : Nat
  deriving DecidableEq, Repr

/-- A definition as it stands in a file. -/
structure RawDefinition where
  name : Bytes
  constants : Array Single
  /-- The offset of the first parameter default. -/
  parametersAt : Nat
  defaults : Array Single
  entries : Array NameEntry
  nodes : Array RawNode
  deriving DecidableEq, Repr

/-- A fault in a row of the node table. -/
def Cursor.nodeFault (cursor : Cursor) (row : Nat) (op : Bytes) (offset : Nat) (index : Int)
    (context : Bytes) (cause : Cause) : Fault :=
  { cursor.fault offset context cause with
    node := row
    nodeOp := op
    index := index }

/-- Reads an entry of the name table. -/
def readEntry (cursor : Cursor) : Except Fault (NameEntry × Cursor) := do
  let (text, next) ← cursor.name "parameter name"
  let (index, next) ← next.word16 "parameter index"
  return (⟨text, index, cursor.offset⟩, next)

/-- The number that two bytes stand for when the first bit is a sign. -/
def signed16 (n : Nat) : Int := if n < 0x8000 then n else (n : Int) - 0x10000

/-- Reads an input of a row: a constant of the table, or an output of an earlier row. -/
def readInput (constants : Nat) (earlier : Array RawNode) (op : Bytes) (place : Nat)
    (cursor : Cursor) :
    Except Fault (RawInput × Cursor) := do
  let row := earlier.size
  let (source, next) ← cursor.word16 "input node"
  let (index, next) ← next.word16 "input index"
  if source = constantMark then
    if index < constants then return (.constant index, next)
    else
      throw (next.nodeFault row op cursor.offset place
        ("constant " ++ natText index ++ " of " ++ natText constants) .badReference)
  else
    match earlier[source]? with
    | none =>
      throw (next.nodeFault row op cursor.offset place
        ("node " ++ intText (signed16 source) ++ " is not before node " ++ natText row)
          .badReference)
    | some producer =>
      if source < 0x8000 then
        if index < producer.outputs.size then return (.output source index, next)
        else
          throw (next.nodeFault row op cursor.offset place
            ("output " ++ natText index ++ " of " ++ producer.op ++ ", which has " ++
              natText producer.outputs.size) .badReference)
      else
        throw (next.nodeFault row op cursor.offset place
          ("node " ++ intText (signed16 source) ++ " is not before node " ++ natText row)
            .badReference)

/-- Reads the rate of an output. -/
def readOutput (row : Nat) (op : Bytes) (place : Nat) (cursor : Cursor) :
    Except Fault (Rate × Cursor) := do
  let (code, next) ← cursor.byte "output rate"
  let rate : Rate := ⟨code⟩
  if rate.valid then return (rate, next)
  else throw (next.nodeFault row op cursor.offset place [] .badRate)

/-- Reads a row of the node table. -/
def readNode (constants parameters : Nat) (earlier : Array RawNode) (cursor : Cursor) :
    Except Fault (RawNode × Cursor) := do
  let row := earlier.size
  let (op, afterOp) ← cursor.name "operator name"
  let (code, next) ← afterOp.byte "node rate"
  let rate : Rate := ⟨code⟩
  if !rate.valid then
    throw (next.nodeFault row op afterOp.offset code.toNat [] .badRate)
  let (inputCount, next) ← next.word16 "input count"
  let (outputCount, next) ← next.word16 "output count"
  let (special, next) ← next.word16 "special index"
  let (inputs, next) ← Cursor.many
    (fun done place => readInput constants earlier op done.size place) inputCount #[] next
  let (outputs, next) ← Cursor.many
    (fun done place => readOutput row op done.size place) outputCount #[] next
  if isControlOp op && parameters < special + outputCount then
    throw (next.nodeFault row op cursor.offset special
      ("parameters " ++ natText special ++ ".." ++ natText (special + outputCount) ++ " of " ++
        natText parameters) .badReference)
  return (⟨op, rate, special, inputs, outputs⟩, next)

/-- Reads a definition. -/
def readDefinition (start : Cursor) : Except Fault (RawDefinition × Cursor) := do
  let (text, next) ← { start with definition := [] }.name "definition name"
  let cursor := { next with definition := text }
  let (count, next) ← cursor.word16 "constant count"
  let (constants, next) ← Cursor.many (fun _ place => place.single "constant") count #[] next
  let (parameters, first) ← next.word16 "parameter count"
  let (defaults, next) ←
    Cursor.many (fun _ place => place.single "parameter default") parameters #[] first
  let (count, next) ← next.word16 "named parameter count"
  let (entries, next) ← Cursor.many (fun _ place => readEntry place) count #[] next
  let (count, next) ← next.word16 "node count"
  let (nodes, variantsAt) ← Cursor.many (readNode constants.size parameters) count #[] next
  let (variants, next) ← variantsAt.word16 "variant count"
  if variants ≠ 0 then
    throw { Fault.structural "decode" .unsupportedVariants with
      definition := text
      offset := variantsAt.offset
      context := natText variants ++ " variants" }
  return (⟨text, constants, first.offset, defaults, entries, nodes⟩, next)

/-- Reads the start of a file, up to the number of its definitions. -/
def readHeader (data : Bytes) : Except Fault (Nat × Cursor) := do
  let start : Cursor := ⟨data, 0, []⟩
  let (mark, next) ← start.word32 "magic"
  if mark ≠ magic then
    throw (next.fault 0 ("got 0x" ++ hexText 8 mark) .badMagic)
  let (number, next) ← next.word32 "version"
  if number ≠ version then
    let signed : Int := if number < 0x80000000 then number else (number : Int) - 0x100000000
    throw (next.fault 4 ("version " ++ intText signed) .badVersion)
  next.word16 "definition count"

end Patchbay.Stream
