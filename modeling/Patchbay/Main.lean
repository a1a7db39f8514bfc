import Patchbay.Command.Execute
import Patchbay.Journal.Clock
import Std.Time.DateTime.Timestamp

/-! The command line: takes in the files that a command can touch, runs it on them, and writes back
what it changed. -/

namespace Patchbay.Shell

/-- A text for the operating system. -/
def systemText (text : Bytes) : String := (String.fromUTF8? ⟨text.toArray⟩).getD ""

/-- The moment now. -/
def now : IO Moment := return ⟨(← Std.Time.Timestamp.now).toNanosecondsSinceUnixEpoch.toInt.toNat⟩

/-- The location of the folder that relative paths start from. -/
def home : IO Location :=
  return (Bytes.splitOn Path.slash (utf8 (← IO.currentDir).toString)).filter (!·.isEmpty)

/-- The variables of the environment that the settings ask for. -/
def environment : IO Environment :=
  Settings.overrides.filterMapM fun override => do
    let name := Environment.namePrefix ++ override.name
    return (← IO.getEnv (systemText name)).map fun value => (name, utf8 value)

/-- Takes in what lies at a path: a file, or a folder with what is directly in it. -/
def takeIn (tree : FileTree) (path : Bytes) : IO FileTree := do
  let place := (← IO.currentDir) / systemText path
  if path.isEmpty then return tree
  else if ← place.isDir then
    (← place.readDir).foldlM (fun tree entry => do
      let inner := Path.join path (utf8 entry.fileName)
      if ← entry.path.isDir then return (tree.ensureFolder inner).2
      else return (tree.writeBelow inner (← IO.FS.readBinFile entry.path).toList).2)
        (tree.ensureFolder path).2
  else if ← place.pathExists then
    return (tree.writeBelow path (← IO.FS.readBinFile place).toList).2
  else return tree

/-- The paths that lead to a path, and the path. -/
def onTheWay (path : Bytes) : List Bytes :=
  (List.range (path.length + 1)).filterMap fun n =>
    if n = path.length || path[n]? = some Path.slash then some (path.take n) else none

/-- Takes in all that a command line can touch. -/
def survey (environment : Environment) (arguments : List Bytes) : IO FileTree := do
  let tree := FileTree.empty (← home)
  match Request.read arguments with
  | .error _ | .ok (.help _) => return tree
  | .ok (.run _ given) =>
    let tree ← takeIn tree ((given.text? "config").getD [])
    match given.settings tree environment with
    | .error _ => return tree
    | .ok settings =>
      ((settings.folder :: (given.text? "output").toList ++ given.rest).flatMap onTheWay).foldlM
        takeIn tree

/-- The path of a location. -/
def absolute (location : Location) : String :=
  systemText (location.flatMap fun name => Path.slash :: name)

/-- Writes the differences between two states of the files. -/
def writeBack (before after : FileTree) : IO Unit := do
  for (location, place) in before.places do
    if after.place? location = none && place != .folder then IO.FS.removeFile (absolute location)
  for (location, place) in after.places do
    if before.place? location ≠ some place then
      match place with
      | .folder => IO.FS.createDirAll (absolute location)
      | .file content => IO.FS.writeBinFile (absolute location) ⟨content.toArray⟩

/-- Writes the files, the output and the journal of a report. -/
def publish (before : FileTree) (began : Moment) (report : Report) : IO UInt32 := do
  writeBack before report.session.tree
  let ended ← now
  (← IO.getStdout).write ⟨report.session.output.toArray⟩
  let stamp : Stamp := ⟨ended.text, Duration.text ⟨ended.nanoseconds - began.nanoseconds⟩⟩
  let errors ← IO.getStderr
  for line in (Journal.atLevel report.threshold).lines stamp report.session.trace.records do
    errors.write ⟨(line ++ utf8 "\n").toArray⟩
  match report.error with
  | none => return 0
  | some error =>
    errors.write ⟨("Error: " ++ error.message ++ utf8 "\n").toArray⟩
    return 1

/-- What a folder looks like: its files with their sizes and times. -/
def look (folder : Bytes) : IO (List (Bytes × UInt64 × Int × UInt32)) := do
  let place := (← IO.currentDir) / systemText folder
  (← place.readDir).toList.mapM fun entry => do
    let data ← entry.path.metadata
    return (utf8 entry.fileName, data.byteSize, data.modified.sec, data.modified.nsec)

/-- The changes between two looks at a folder. -/
def compare (folder : Bytes) (old new : List (Bytes × UInt64 × Int × UInt32)) : List WatchInput :=
  let report (kind : ChangeKind) (name : Bytes) : WatchInput :=
    .change ⟨Path.join folder name, [kind]⟩
  (old.filter fun (name, _) => (new.lookup name).isNone).map
    (fun (name, _) => report .remove name) ++
    new.filterMap fun (name, data) =>
      match old.lookup name with
      | none => some (report .create name)
      | some before => if before = data then none else some (report .write name)

/-- Watches a folder, and compiles what changes in it. -/
partial def watch (surroundings : Surroundings) (settings : Settings) (watcher : Watcher)
    (state : WatchState) (seen : List (Bytes × UInt64 × Int × UInt32)) : IO Unit := do
  IO.sleep (UInt32.ofNat (settings.debounce.nanoseconds / 1000000).toNat)
  let next ← look watcher.folder
  let changes := compare watcher.folder seen next
  let (state, batches, _) :=
    watcher.run state (if changes.isEmpty then [.expired, .quiet] else changes)
  for paths in batches do
    let tree ← (settings.folder :: paths).flatMap onTheWay |>.foldlM takeIn
      (FileTree.empty (← home))
    discard
      (publish tree (← now)
        (surroundings.report tree (.ok settings) fun tool => tool.rebuild paths))
  watch surroundings settings watcher state next

/-- Shows the library and reacts to the keys that are typed, one on a line; an empty line is the
enter key. -/
partial def browse (browser : Browser) (tree : FileTree) : IO Unit := do
  (← IO.getStdout).write ⟨(browser.view ++ utf8 "\n").toArray⟩
  let line ← (← IO.getStdin).getLine
  if line.isEmpty then return
  let key := (utf8 line).dropEnding "\n"
  let (browser, after, quits) := browser.press tree (key.orElse "enter")
  writeBack tree after
  if quits then return
  browse browser after

/-- Goes on with a command that waits for changes or keys. -/
def goOn (surroundings : Surroundings) (tree : FileTree) (verb : Verb) (given : GivenFlags) :
    IO Unit := do
  match given.settings tree surroundings.environment with
  | .error _ => return
  | .ok settings =>
    match verb with
    | .watch =>
      let folder := given.rest.headD []
      watch surroundings settings ⟨folder, isDescription⟩ .start (← look folder)
    | .browse =>
      match Browser.start (surroundings.tool settings).library tree with
      | .ok browser => browse browser tree
      | .error _ => return
    | _ => return

end Patchbay.Shell

open Patchbay Patchbay.Shell in
/-- Runs a command line. -/
def main (arguments : List String) : IO UInt32 := do
  let began ← now
  let arguments := arguments.map utf8
  let surroundings : Surroundings := ⟨← environment, [], .endless, natText began.nanoseconds⟩
  let tree ← survey surroundings.environment arguments
  let report := surroundings.execute tree arguments
  let code ← publish tree began report
  match code, Request.read arguments with
  | 0, .ok (.run verb given) => goOn surroundings report.session.tree verb given
  | _, _ => pure ()
  return code
