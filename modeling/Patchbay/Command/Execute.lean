import Patchbay.Command.Run

/-! Command lines from beginning to end. -/

namespace Patchbay

/-- What a command finds around it, besides the files. -/
structure Surroundings where
  environment : Environment
  /-- The addresses of engines, each with its answer to every delivery. -/
  engines : List (Bytes × Bytes)
  patience : Patience
  /-- What makes temporary names unique. -/
  token : Bytes

/-- What a command leaves: the session, the level from which records are kept, and the error if it
failed. -/
structure Report where
  session : Session
  threshold : Level
  error : Option CommandError

/-- The settings of a command: those of the file and the environment with the flags over them. -/
def GivenFlags.settings (given : GivenFlags) (tree : FileTree) (environment : Environment) :
    Except SettingsError Settings := do
  let settings ← Settings.load tree environment ((given.text? "config").getD [])
  let settings := { settings with
    strict := (given.truth? "strict").getD settings.strict
    level := (given.text? "log-level").getD settings.level
    folder := (given.text? "library").getD settings.folder }
  settings.checked

namespace Surroundings

/-- The tool with settings. -/
def tool (surroundings : Surroundings) (settings : Settings) : Tool :=
  ⟨settings, surroundings.engines, surroundings.patience, surroundings.token⟩

/-- Runs a command with settings. -/
def report (surroundings : Surroundings) (tree : FileTree)
    (settings : Except SettingsError Settings) (command : Tool → SessionM Unit) : Report :=
  match settings with
  | .error error => ⟨.start tree, .info, some (.settings error)⟩
  | .ok settings =>
    match command (surroundings.tool settings) (.start tree) with
    | .ok () session => ⟨session, settings.threshold, none⟩
    | .error error session => ⟨session, settings.threshold, some error⟩

/-- The text that tells about the commands. -/
def helpText : Bytes :=
  "usage: synthdef [flags] command [arguments]\n\ncommands:\n" ++
    Verb.root.children.flatMap fun verb => utf8 "  " ++ verb.name ++ utf8 "\n"

/-- Runs a command line. -/
def execute (surroundings : Surroundings) (tree : FileTree) (arguments : List Bytes) : Report :=
  match Request.read arguments with
  | .error error => ⟨.start tree, .info, some (.usage error)⟩
  | .ok (.help _) => ⟨{ Session.start tree with output := helpText }, .info, none⟩
  | .ok (.run verb given) =>
    surroundings.report tree (given.settings tree surroundings.environment) fun tool =>
      tool.run verb given

/-- Compiles changed descriptions into the library. -/
def rebuild (surroundings : Surroundings) (tree : FileTree) (paths : List Bytes) : Report :=
  surroundings.report tree (Settings.load tree surroundings.environment []) fun tool => do
    tool.openLibrary
    tool.rebuild paths

end Surroundings

end Patchbay
