import Patchbay.Duration
import Patchbay.Text.Utf8

/-! The journal: records of what happened, written as one JSON object per line. Strings are quoted,
with escapes that also keep the text safe inside markup. -/

namespace Patchbay

namespace Text

/-- A character inside a JSON string. -/
def jsonChar (c : Char) : Bytes :=
  if c = '"' then "\\\""
  else if c = '\\' then "\\\\"
  else if c = '\n' then "\\n"
  else if c = '\r' then "\\r"
  else if c = '\t' then "\\t"
  else if c.toNat = 8 then "\\b"
  else if c.toNat = 12 then "\\f"
  else if c.toNat < 0x20 || c = '<' || c = '>' || c = '&' || c.toNat = 0x2028 || c.toNat =
    0x2029 then
    "\\u" ++ hexText 4 c.toNat
  else String.utf8EncodeChar c

/-- A text as a JSON string; a stray byte becomes the replacement character. -/
def jsonString (text : Bytes) : Bytes :=
  "\"" ++ (glyphs text).flatMap (fun
    | .char c => jsonChar c
    | .stray _ => [0xEF, 0xBF, 0xBD]) ++ "\""

end Text

/-- How important a record is. -/
inductive Level where
  | debug
  | info
  | warn
  | error
  deriving DecidableEq, Repr

namespace Level

/-- The rank of a level. -/
def rank : Level → Nat
  | .debug => 0
  | .info => 1
  | .warn => 2
  | .error => 3

/-- The name of a level in a record. -/
def name : Level → Bytes
  | .debug => "DEBUG"
  | .info => "INFO"
  | .warn => "WARN"
  | .error => "ERROR"

/-- The name of a level by its rank. -/
def nameOfRank (rank : Int) : Bytes :=
  match [Level.debug, .info, .warn, .error].find? fun level => (level.rank : Int) == rank with
  | some level => level.name
  | none => "UNKNOWN"

/-- Reads a level in lower or upper case; any other text stands for information. -/
def parse (text : Bytes) : Level :=
  if text = utf8 "DEBUG" || text = utf8 "debug" then .debug
  else if text = utf8 "WARN" || text = utf8 "warn" || text = utf8 "WARNING" || text =
    utf8 "warning" then
    .warn
  else if text = utf8 "ERROR" || text = utf8 "error" then .error
  else .info

end Level

/-- A value in a record. -/
inductive FieldValue where
  | text (text : Bytes)
  | number (n : Int)
  | flag (flag : Bool)
  | absent
  /-- A number that JSON cannot hold. -/
  | notANumber
  /-- The time that an operation took, filled in when the record is written. -/
  | latency
  deriving DecidableEq, Repr

/-- A named value in a record. -/
structure Field where
  key : Bytes
  value : FieldValue
  deriving DecidableEq, Repr

namespace Field

/-- A field with a text. -/
def text (key value : Bytes) : Field := ⟨key, .text value⟩

/-- A field with a number. -/
def number (key : Bytes) (value : Int) : Field := ⟨key, .number value⟩

/-- A field with a flag. -/
def flag (key : Bytes) (value : Bool) : Field := ⟨key, .flag value⟩

/-- A field with a span of time. -/
def duration (key : Bytes) (value : Duration) : Field := ⟨key, .text value.text⟩

/-- The part of the program that a record comes from. -/
def component (name : Bytes) : Field := text "component" name

/-- The definition that a record is about. -/
def definition (name : Bytes) : Field := text "definition" name

/-- The operator that a record is about. -/
def op (name : Bytes) : Field := text "op" name

/-- The row of the node table that a record is about. -/
def nodeIndex (row : Int) : Field := number "node_index" row

/-- The place in a file that a record is about. -/
def offset (place : Int) : Field := number "offset" place

/-- The parameter name that a record is about. -/
def control (name : Bytes) : Field := text "control" name

/-- The parameter that a record is about. -/
def controlIndex (place : Int) : Field := number "control_index" place

/-- How many there were. -/
def count (n : Int) : Field := number "count" n

/-- How many bytes there were. -/
def bytes (n : Int) : Field := number "bytes" n

/-- The file that a record is about. -/
def path (path : Bytes) : Field := text "path" path

/-- What went wrong. -/
def error (message : Bytes) : Field := text "error" message

/-- That nothing went wrong. -/
def noError : Field := ⟨"error", .absent⟩

/-- How long it took. -/
def latency : Field := ⟨"latency", .latency⟩

end Field

/-- Something that happened. -/
structure Record where
  level : Level
  message : Bytes
  fields : List Field
  deriving DecidableEq, Repr

/-- When a record is written, and how long its operation took. -/
structure Stamp where
  time : Bytes
  latency : Bytes

namespace Record

/-- A record with fields in front of its own. -/
def within (context : List Field) (record : Record) : Record :=
  { record with fields := context ++ record.fields }

/-- The record of a timed operation that succeeded. -/
def timed (message : Bytes) (fields more : List Field) : Record :=
  ⟨.debug, message, fields ++ more ++ [.latency]⟩

/-- The record of a timed operation that failed. -/
def failed (message : Bytes) (fields : List Field) (error : Bytes) : Record :=
  ⟨.error, message, fields ++ [.latency, .error error]⟩

/-- The fields in order of their keys; of several with one key, the last. -/
def sortedFields (fields : List Field) : List Field :=
  let distinct := fields.foldl
    (fun kept field => kept.filter (fun other => other.key != field.key) ++ [field]) []
  distinct.mergeSort fun a b => Bytes.notAfter a.key b.key

/-- A value in JSON. -/
def valueText (stamp : Stamp) : FieldValue → Bytes
  | .text text => Text.jsonString text
  | .number n => intText n
  | .flag flag => if flag then "true" else "false"
  | .absent => "null"
  | .notANumber => "NaN"
  | .latency => Text.jsonString stamp.latency

/-- A field in JSON. -/
def fieldText (stamp : Stamp) (field : Field) : Bytes :=
  Text.jsonString field.key ++ ":" ++ valueText stamp field.value

/-- The line of a record, without the end of the line. A record that JSON cannot hold leaves a
complaint in its place. -/
def line (stamp : Stamp) (record : Record) : Bytes :=
  let fields := sortedFields record.fields
  if fields.any fun field => field.value == .notANumber then
    "[ERROR] failed to marshal log entry: json: unsupported value: NaN"
  else
    let body : Bytes :=
      if fields.isEmpty then []
      else ",\"fields\":\x7b" ++ Bytes.join "," (fields.map (fieldText stamp)) ++ "\x7d"
    "\x7b\"time\":" ++ Text.jsonString stamp.time ++ ",\"level\":" ++
      Text.jsonString record.level.name ++
      ",\"msg\":" ++ Text.jsonString record.message ++ body ++ "\x7d"

end Record

/-- A journal keeps records from a level on, each with fields of its own in front. A closed journal
keeps nothing. -/
structure Journal where
  threshold : Level
  context : List Field
  closed : Bool

namespace Journal

/-- The journal that keeps records from a level on. -/
def atLevel (threshold : Level) : Journal := ⟨threshold, [], false⟩

/-- The journal that keeps nothing. -/
def silent : Journal := ⟨.debug, [], true⟩

/-- A journal that puts further fields in front. -/
def withFields (journal : Journal) (fields : List Field) : Journal :=
  { journal with context := journal.context ++ fields }

/-- The records that a journal keeps, with its fields. -/
def keep (journal : Journal) (records : List Record) : List Record :=
  if journal.closed then []
  else (records.filter fun record => journal.threshold.rank ≤ record.level.rank).map
    (Record.within journal.context)

/-- The lines that a journal writes for records. -/
def lines (journal : Journal) (stamp : Stamp) (records : List Record) : List Bytes :=
  (journal.keep records).map (Record.line stamp)

end Journal

end Patchbay
