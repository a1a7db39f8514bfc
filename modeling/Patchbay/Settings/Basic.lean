import Patchbay.Graph.Collect
import Patchbay.Journal.Record
import Patchbay.Settings.Check
import Patchbay.Text.Case

/-! The settings of the tool and the conditions on them. -/

namespace Patchbay

/-- The settings of the tool. -/
structure Settings where
  /-- The name of the rule by which constants are joined. -/
  dedup : Bytes
  /-- Whether inconsistent parameter tables are refused. -/
  strict : Bool
  /-- The folder of the library. -/
  folder : Bytes
  /-- Whether stored definitions are compressed. -/
  compressed : Bool
  /-- The name of the level from which records are kept. -/
  level : Bytes
  /-- How long a watcher waits for further changes. -/
  debounce : Duration
  /-- The address of the engine; empty for none. -/
  address : Bytes
  /-- How long a delivery may take. -/
  timeout : Duration
  deriving DecidableEq, Repr

namespace Settings

/-- The settings where nothing is set. -/
def initial : Settings where
  dedup := "identity"
  strict := false
  folder := "synthdefs"
  compressed := false
  level := "info"
  debounce := .milliseconds 200
  address := []
  timeout := .seconds 5

/-- Names in lower case, and the initial value for every empty text and every duration that is not
positive. -/
def complete (settings : Settings) : Settings :=
  { settings with
    dedup := (Text.lower settings.dedup).orElse initial.dedup
    folder := settings.folder.orElse initial.folder
    level := (Text.lower settings.level).orElse initial.level
    debounce := settings.debounce.orElse initial.debounce
    timeout := settings.timeout.orElse initial.timeout }

/-- The text before the first `://`, if there is one. -/
def scheme? : Bytes → Option Bytes
  | [] => none
  | byte :: rest =>
    if (utf8 "://").isPrefixOf (byte :: rest) then some [] else (scheme? rest).map (byte :: ·)

/-- The schemes of addresses. -/
def schemes : List Bytes := ["tcp", "ipc", "inproc"]

/-- What is wrong with an address. -/
def addressProblem? (address : Bytes) : Option Bytes :=
  match scheme? address with
  | none => some ("address " ++ Text.quote address ++ " has no scheme")
  | some scheme =>
    if schemes.contains scheme then none
    else some ("address " ++ Text.quote address ++ ": unsupported scheme " ++ Text.quote scheme)

/-- The complaints about settings. -/
def complaints (settings : Settings) : Complaints :=
  .ofChecks "config" [
    .oneOf "compiler.constant_dedup" settings.dedup ["identity", "value"],
    .required "library.dir" settings.folder,
    .oneOf "logging.level" settings.level ["debug", "info", "warn", "error"],
    .atLeast "watch.debounce" settings.debounce (.milliseconds 10),
    .atMost "watch.debounce" settings.debounce (.seconds 10),
    .atLeast "transport.timeout" settings.timeout (.milliseconds 1),
    .onlyIf (!settings.address.isEmpty)
      (.custom "transport.addr" (addressProblem? settings.address))]

/-- The rule by which constants are joined. -/
def rule (settings : Settings) : Dedup := (Dedup.parse? settings.dedup).getD .identity

/-- The level from which records are kept. -/
def threshold (settings : Settings) : Level := .parse settings.level

end Settings

end Patchbay
