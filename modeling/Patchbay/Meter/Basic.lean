import Patchbay.Decimal.General
import Patchbay.Fault.Basic

/-! Meters: counts, gauges and size distributions of what the program did. -/

namespace Patchbay

/-- A measured quantity with the labels that tell its instances apart, in order of label name. -/
structure Series where
  name : Bytes
  labels : List (Bytes × Bytes)
  deriving DecidableEq, Repr

/-- The name of a series with its labels. -/
def Series.text (series : Series) : Bytes :=
  if series.labels.isEmpty then series.name
  else
    series.name ++ "\x7b" ++
      Bytes.join "," (series.labels.map fun (label, value) => label ++ "=" ++ Text.quote value) ++
        "\x7d"

/-- The upper bounds of the size classes. -/
def sizeBounds : List Int := [1, 4, 16, 64, 256, 1024, 4096, 16384, 65535]

/-- The integer of a 64-bit number that is nearest to an integer. Meters keep no others. -/
def nearestDouble (n : Int) : Int := (Binary.ofInt .double n).truncate

/-- A distribution of sizes: how many there were, their sum, and how many lay at or below each
bound. -/
structure Distribution where
  count : Nat
  sum : Int
  below : List Nat
  deriving DecidableEq, Repr

namespace Distribution

/-- The distribution of nothing. -/
def empty : Distribution := ⟨0, 0, sizeBounds.map fun _ => 0⟩

/-- Adds a size. -/
def add (distribution : Distribution) (size : Int) : Distribution where
  count := distribution.count + 1
  sum := nearestDouble (distribution.sum + nearestDouble size)
  below := (distribution.below.zip sizeBounds).map fun (n, bound) => if size ≤ bound then n + 1
    else n

end Distribution

/-- A measurement. -/
inductive Reading where
  /-- A count or a gauge. -/
  | amount (n : Int)
  /-- A distribution of sizes. -/
  | sizes (distribution : Distribution)
  /-- How often a time was taken. -/
  | times (count : Nat)
  deriving DecidableEq, Repr

/-- A measurement as it is read. -/
def Reading.read : Reading → Reading
  | .amount n => .amount (nearestDouble n)
  | other => other

/-- How an operation ended. -/
inductive Status where
  | success
  | failed (kind : FaultKind)
  deriving DecidableEq, Repr

/-- The label of an ending; a failure outside the families is just an error. -/
def Status.name : Status → Bytes
  | .success => "success"
  | .failed .unknown => "error"
  | .failed kind => kind.name

/-- Something to measure. -/
inductive Measure where
  | compiled (status : Status) (nodes constants controls : Int)
  | encoded (status : Status) (bytes : Int)
  | decoded (status : Status) (bytes definitions : Int)
  | diagnostic (reason : Bytes)
  | library (operation : Bytes) (status : Status)
  | stored (definitions : Int)
  deriving DecidableEq, Repr

/-- Why a measure cannot be taken into account. -/
inductive MeasureError where
  /-- A count would go down. -/
  | decrease
  /-- A label is no text. -/
  | label (value : Bytes)
  deriving DecidableEq, Repr

/-- Why a measure cannot be taken into account, in words. -/
def MeasureError.message : MeasureError → Bytes
  | .decrease => "counter cannot decrease in value"
  | .label value => "label value " ++ Text.quote value ++ " is not valid UTF-8"

/-- Whether a measure can be taken into account. -/
def Measure.check : Measure → Except MeasureError Unit
  | .encoded .success bytes => if bytes < 0 then throw .decrease else return
  | .decoded status bytes definitions =>
    if bytes < 0 || (status = .success && definitions < 0) then throw .decrease else return
  | .diagnostic text | .library text _ =>
    if (Text.chars? text).isNone then throw (.label text) else return
  | _ => return

/-- The measurements so far. -/
structure Meters where
  readings : List (Series × Reading)
  deriving DecidableEq, Repr

namespace Meters

/-- A series of one kind without labels. -/
def plain (name : Bytes) : Series := ⟨"synthgraph_" ++ name, []⟩

/-- A series with one label. -/
def labelled (name label value : Bytes) : Series := ⟨"synthgraph_" ++ name, [(label, value)]⟩

/-- The meters before anything is measured: those without labels are there from the start. -/
def initial : Meters where
  readings := [
    (plain "compile_duration_seconds", .times 0),
    (plain "definitions_decoded_total", .amount 0),
    (plain "graph_constants", .sizes .empty),
    (plain "graph_controls", .sizes .empty),
    (plain "graph_nodes", .sizes .empty),
    (plain "library_definitions", .amount 0)]

/-- Changes a reading, starting from a given one where there is none. -/
def update (meters : Meters) (series : Series) (start : Reading) (change : Reading → Reading) :
    Meters :=
  if meters.readings.any fun (other, _) => other == series then
    ⟨meters.readings.map fun (other, reading) =>
      if other == series then (other, change reading) else (other, reading)⟩
  else ⟨meters.readings ++ [(series, change start)]⟩

/-- Adds to a count. -/
def count (meters : Meters) (series : Series) (n : Int) : Meters :=
  meters.update series (.amount 0) fun
    | .amount m => .amount (m + nearestDouble n)
    | other => other

/-- Adds a size to a distribution. -/
def size (meters : Meters) (name : Bytes) (n : Int) : Meters :=
  meters.update (plain name) (.sizes .empty) fun
    | .sizes distribution => .sizes (distribution.add n)
    | other => other

/-- Notes that a time was taken. -/
def time (meters : Meters) (series : Series) : Meters :=
  meters.update series (.times 0) fun
    | .times n => .times (n + 1)
    | other => other

/-- Sets a gauge. -/
def gauge (meters : Meters) (name : Bytes) (n : Int) : Meters :=
  meters.update (plain name) (.amount 0) fun _ => .amount (nearestDouble n)

/-- Takes a measure into account. -/
def record (meters : Meters) : Measure → Meters
  | .compiled status nodes constants controls =>
    let meters := (meters.count (labelled "compiles_total" "status" status.name) 1).time
      (plain "compile_duration_seconds")
    match status with
    | .success =>
      ((meters.size "graph_nodes" nodes).size "graph_constants" constants).size "graph_controls"
        controls
    | .failed _ => meters
  | .encoded status bytes =>
    let meters := meters.count (labelled "encodes_total" "status" status.name) 1
    match status with
    | .success => meters.count (labelled "codec_bytes_total" "direction" "encode") bytes
    | .failed _ => meters
  | .decoded status bytes definitions =>
    let meters := (meters.count (labelled "decodes_total" "status" status.name) 1).count
      (labelled "codec_bytes_total" "direction" "decode") bytes
    match status with
    | .success => meters.count (plain "definitions_decoded_total") definitions
    | .failed _ => meters
  | .diagnostic reason => meters.count (labelled "diagnostics_total" "reason" reason) 1
  | .library operation status =>
    (meters.count
      ⟨"synthgraph_library_operations_total", [("operation", operation), ("status", status.name)]⟩
        1).time
      (labelled "library_operation_duration_seconds" "operation" operation)
  | .stored definitions => meters.gauge "library_definitions" definitions

/-- The meters after some measures, unless one of them cannot be taken into account. -/
def ofMeasures (measures : List Measure) : Except MeasureError Meters := do
  measures.forM Measure.check
  return measures.foldl record initial

/-- An integer as meters print it: large ones with an exponent. -/
def amountText (n : Int) : Bytes :=
  let rec strip : Nat → Nat → Int → Decimal.Digits
    | 0, digits, exponent => ⟨digits, exponent⟩
    | fuel + 1, digits, exponent =>
      if digits % 10 = 0 && digits ≠ 0 then strip fuel (digits / 10) (exponent + 1)
      else ⟨digits, exponent⟩
  let size := Decimal.Layout.sample.text (strip (toString n.natAbs).length n.natAbs 0)
  if n < 0 then "-" ++ size else size

/-- A reading in words. -/
def readingText : Reading → Bytes
  | .amount n => amountText n
  | .sizes distribution =>
    "count=" ++ natText distribution.count ++ " sum=" ++ amountText distribution.sum
  | .times n => "count=" ++ natText n ++ " sum=0"

/-- The meters, one per line and in order of the lines. -/
def lines (meters : Meters) : List Bytes :=
  (meters.readings.map fun (series, reading) => series.text ++ " " ++
    readingText reading.read).mergeSort
    Bytes.notAfter

end Meters

end Patchbay
