import Patchbay.Definition.Compile
import Patchbay.Journal.Record
import Patchbay.Meter.Basic
import Patchbay.Stream.Read

/-! Traces: what compiling, writing and reading definitions leave in the journal and on the
meters. -/

namespace Patchbay

/-- What an operation leaves behind, in order. -/
structure Trace where
  records : List Record
  measures : List Measure

namespace Trace

/-- Nothing left behind. -/
def none : Trace := ⟨[], []⟩

/-- One trace after another. -/
def append (first second : Trace) : Trace :=
  ⟨first.records ++ second.records, first.measures ++ second.measures⟩

instance : Append Trace := ⟨append⟩

/-- A trace of one record. -/
def ofRecord (record : Record) : Trace := ⟨[record], []⟩

/-- A trace of one measure. -/
def ofMeasure (measure : Measure) : Trace := ⟨[], [measure]⟩

/-- A trace whose records come from a part of the program. -/
def fromComponent (name : Bytes) (trace : Trace) : Trace :=
  { trace with records := trace.records.map (Record.within [.component name]) }

/-- A trace without what writing and reading definitions leaves. -/
def withoutStreams (trace : Trace) : Trace :=
  ⟨trace.records.filter fun record => !record.fields.contains (.component "codec"),
    trace.measures.filter fun
      | .encoded _ _ | .decoded _ _ _ | .diagnostic _ => false
      | _ => true⟩

end Trace

/-- The sizes of a definition as fields. -/
def Definition.sizeFields (definition : Definition) : List Field :=
  [.number "nodes" definition.nodes.length, .number "constants" definition.constants.length,
    .number "controls" definition.controls.length]

/-- The records of a sequenced definition, one per node. -/
def Definition.sequencedRecords (definition : Definition) : List Record :=
  definition.nodes.zipIdx.map fun (placed, row) =>
    ⟨.debug, "sequenced node", [.definition definition.name, .nodeIndex row,
      .op (definition.graph.node placed.node).op]⟩

/-- What compiling leaves behind. -/
def compileTrace (graph : Graph) (roots : List Element) (rule : Dedup) (name : Bytes) : Trace :=
  let failed (fault : Fault) : Trace :=
    ⟨[⟨.error, "compile", [.definition name, .latency, .error fault.message]⟩],
      [.compiled (.failed fault.kind) 0 0 0]⟩
  let trace := match arrange graph roots rule name with
    | .error fault => failed fault
    | .ok definition =>
      let sequenced : Trace := ⟨definition.sequencedRecords, []⟩
      match definition.check with
      | .error fault => sequenced.append (failed fault)
      | .ok () =>
        sequenced.append
          ⟨[⟨.debug, "compile", .definition name :: .latency :: definition.sizeFields⟩],
            [.compiled .success definition.nodes.length definition.constants.length
              definition.controls.length]⟩
  trace.fromComponent "compiler"

namespace Stream

/-- The word that counts parameters written without a name. -/
def unnamedReason : Bytes := "unnamed_control"

/-- What is told about the parameters of a definition that are written without a name. -/
def unnamedTrace (definition : Definition) : Trace :=
  let places := unnamedPlaces definition.controls
  ⟨places.map fun place => ⟨.warn, "unnamed control left out of name table",
      [.definition definition.name, .controlIndex (place : Nat)]⟩,
    places.map fun _ => .diagnostic unnamedReason⟩

/-- What writing definitions one after another leaves behind, up to the first that cannot be
written. -/
def writtenTrace (strict : Bool) : List Definition → Trace
  | [] => .none
  | definition :: rest =>
    match checkDefinition definition with
    | .error _ => .none
    | .ok () =>
      let unnamed : Trace := if strict then .none else unnamedTrace definition
      match body strict definition with
      | .error _ => unnamed
      | .ok _ =>
        unnamed ++
          Trace.ofRecord
            ⟨.debug, "encoded definition", .definition definition.name :: definition.sizeFields⟩ ++
          writtenTrace strict rest

/-- What writing a file leaves behind. -/
def encodeTrace (strict : Bool) (definitions : List Definition) : Trace :=
  let count := Field.count definitions.length
  let written : Trace := if maxCount < definitions.length then .none
    else writtenTrace strict definitions
  let trace := match encode strict definitions with
    | .error fault =>
      written.append ⟨[⟨.error, "encode", [count, .latency, .error fault.message]⟩],
        [.encoded (.failed fault.kind) 0]⟩
    | .ok data =>
      written.append ⟨[⟨.debug, "encode", [count, .bytes data.length, .latency]⟩],
        [.encoded .success data.length]⟩
  trace.fromComponent "codec"

/-- What a notice of reading leaves behind. -/
def ReadNotice.trace : ReadNotice → Trace
  | .dropped definition diagnostic =>
    let name := match diagnostic.name? with
      | some name => [Field.control name]
      | none => []
    ⟨[⟨.warn, diagnostic.text, .definition definition :: name ++
        [.controlIndex diagnostic.index, .text "reason" diagnostic.reason]⟩],
      [.diagnostic diagnostic.reason]⟩
  | .read definition =>
    .ofRecord ⟨.debug, "decoded definition", .definition definition.name :: definition.sizeFields⟩

/-- What reading a file leaves behind. -/
def decodeTrace (strict : Bool) (data : Bytes) : Trace :=
  let reading := reading strict data
  let notices := reading.notices.reverse.map ReadNotice.trace
  let told : Trace := ⟨notices.flatMap Trace.records, notices.flatMap Trace.measures⟩
  let trace := match reading.result with
    | .error fault =>
      told.append
        ⟨[⟨.error, "decode failed", [.bytes data.length, .error fault.message, .latency]⟩],
          [.decoded (.failed fault.kind) data.length 0]⟩
    | .ok definitions =>
      told.append ⟨[⟨.debug, "decode", [.bytes data.length, .count definitions.length, .latency]⟩],
        [.decoded .success data.length definitions.length]⟩
  trace.fromComponent "codec"

end Stream

end Patchbay
