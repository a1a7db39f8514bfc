import Patchbay.Files.Tree
import Patchbay.Settings.Basic
import Patchbay.Text.Quote
import Patchbay.Yaml.Decode

/-! Settings from a file and from the environment. The environment goes over the file, and truth
values are given in words. -/

namespace Patchbay

namespace Text

/-- The words for true. -/
def yesWords : List Bytes := ["1", "t", "T", "TRUE", "true", "True"]

/-- The words for false. -/
def noWords : List Bytes := ["0", "f", "F", "FALSE", "false", "False"]

/-- Reads a truth value. -/
def truth? (text : Bytes) : Option Bool :=
  if yesWords.contains text then some true
  else if noWords.contains text then some false
  else none

/-- The complaint about a text that is no truth value. -/
def noTruthText (text : Bytes) : Bytes :=
  "strconv.ParseBool: parsing " ++ quote text ++ ": invalid syntax"

end Text

open Yaml.Decode

namespace Settings

/-- A group of fields of the settings. -/
def group (type : Bytes) (fields : List (Bytes × Yaml.Slot Settings)) : Yaml.Slot Settings :=
  record { type := type, closed := false, fields := fields }

/-- How settings are read from a document. -/
def slot : Yaml.Slot Settings :=
  group "config.Config" [
    ("compiler", group "config.CompilerConfig" [
      ("constant_dedup", part (·.dedup)
        (fun settings dedup => { settings with dedup := dedup }) text)]),
    ("codec", group "config.CodecConfig" [
      ("strict", part (·.strict)
        (fun settings strict => { settings with strict := strict }) flag)]),
    ("library", group "config.LibraryConfig" [
      ("dir", part (·.folder) (fun settings folder => { settings with folder := folder }) text),
      ("compress", part (·.compressed)
        (fun settings compressed => { settings with compressed := compressed })
        flag)]),
    ("logging", group "config.LoggingConfig" [
      ("level", part (·.level) (fun settings level => { settings with level := level }) text)]),
    ("watch", group "config.WatchConfig" [
      ("debounce", part (·.debounce)
        (fun settings debounce => { settings with debounce := debounce })
        duration)]),
    ("transport", group "config.TransportConfig" [
      ("addr", part (·.address)
        (fun settings address => { settings with address := address }) text),
      ("timeout", part (·.timeout)
        (fun settings timeout => { settings with timeout := timeout }) duration)])]

/-- Settings changed by a text; one without a document changes nothing. -/
def readYaml (settings : Settings) (text : Bytes) : Except Yaml.Error Settings :=
  match Yaml.parse text with
  | .error problem => .error (.malformed problem)
  | .ok none => .ok settings
  | .ok (some document) => Yaml.decode slot settings document

end Settings

/-- The variables of the environment. -/
abbrev Environment := List (Bytes × Bytes)

/-- What the names of the variables begin with. -/
def Environment.namePrefix : Bytes := "SYNTHGRAPH_"

/-- Why settings cannot be had. -/
inductive SettingsError where
  | unreadable (path : Bytes) (failure : FileFailure)
  | malformed (path : Bytes) (error : Yaml.Error)
  /-- Variables that cannot be read, each with the reason. -/
  | variables (problems : List (Bytes × Bytes))
  | refused (message : Bytes)

/-- Why settings cannot be had, in words. -/
def SettingsError.message : SettingsError → Bytes
  | .unreadable path failure => "failed to read config " ++ path ++ ": " ++ failure.message
  | .malformed path error => "failed to parse config " ++ path ++ ": " ++ error.message
  | .variables problems =>
    Bytes.join "\n"
      (problems.map fun (name, problem) => Environment.namePrefix ++ name ++ ": " ++ problem)
  | .refused message => message

namespace Settings

/-- What a variable does to settings, or what is wrong with its text. -/
structure Override where
  name : Bytes
  apply : Bytes → Settings → Except Bytes Settings

namespace Override

/-- A variable that holds a text. -/
def text (name : Bytes) (put : Settings → Bytes → Settings) : Override :=
  ⟨name, fun value settings => .ok (put settings value)⟩

/-- A variable that holds a truth value. -/
def flag (name : Bytes) (put : Settings → Bool → Settings) : Override where
  name := name
  apply value settings :=
    match Text.truth? value with
    | some truth => .ok (put settings truth)
    | none => .error (Text.noTruthText value)

/-- A variable that holds a duration. -/
def duration (name : Bytes) (put : Settings → Duration → Settings) : Override where
  name := name
  apply value settings :=
    match Duration.read value with
    | .ok duration => .ok (put settings duration)
    | .error error => .error (error.message value)

end Override

/-- The variables, in the order in which they are looked at. -/
def overrides : List Override := [
  .text "CONSTANT_DEDUP" fun settings dedup => { settings with dedup := dedup },
  .flag "STRICT" fun settings strict => { settings with strict := strict },
  .text "LIBRARY_DIR" fun settings folder => { settings with folder := folder },
  .flag "LIBRARY_COMPRESS" fun settings compressed => { settings with compressed := compressed },
  .text "LOG_LEVEL" fun settings level => { settings with level := level },
  .duration "WATCH_DEBOUNCE" fun settings debounce => { settings with debounce := debounce },
  .text "TRANSPORT_ADDR" fun settings address => { settings with address := address },
  .duration "TRANSPORT_TIMEOUT" fun settings timeout => { settings with timeout := timeout }]

/-- Applies the variables that are set, and gathers those that cannot be read. -/
def overrideAll (environment : Environment) :
    List Override → Settings → List (Bytes × Bytes) × Settings
  | [], settings => ([], settings)
  | override :: rest, settings =>
    match environment.lookup (Environment.namePrefix ++ override.name) with
    | none => overrideAll environment rest settings
    | some value =>
      match override.apply value settings with
      | .ok settings => overrideAll environment rest settings
      | .error problem =>
        let (problems, settings) := overrideAll environment rest settings
        ((override.name, problem) :: problems, settings)

/-- Settings with the variables of the environment over them. -/
def overridden (environment : Environment) (settings : Settings) : Except SettingsError Settings :=
  match overrideAll environment overrides settings with
  | ([], settings) => .ok settings
  | (problems, _) => .error (.variables problems)

/-- Settings that meet their conditions. -/
def checked (settings : Settings) : Except SettingsError Settings :=
  match settings.complaints.message? with
  | none => .ok settings
  | some message => .error (.refused message)

/-- The settings in a file; those where nothing is set for no file. -/
def ofFile (tree : FileTree) (path : Bytes) : Except SettingsError Settings :=
  if path.isEmpty then .ok initial
  else do
    let text ← (tree.read path).mapError (SettingsError.unreadable path)
    (initial.readYaml text).mapError (SettingsError.malformed path)

/-- The initial settings with a file over them and the environment over both. -/
def load (tree : FileTree) (environment : Environment) (path : Bytes) :
    Except SettingsError Settings := do
  let settings ← ofFile tree path
  let settings ← settings.overridden environment
  settings.complete.checked

end Settings

end Patchbay
