import Patchbay.Browser
import Patchbay.Command.Session
import Patchbay.Watch.Folder

/-! What the commands do. -/

namespace Patchbay.Tool

open Session

/-- Writes the definitions together to one file. -/
def bundle (tool : Tool) (path : Bytes) (definitions : List Definition) : SessionM Unit := do
  let data ← tool.encode definitions
  writeFile path data
  say ("wrote " ++ path ++ " (" ++ natText definitions.length ++ " definitions, " ++
    natText data.length ++
    " bytes)")

/-- Writes a definition to a file of its name. -/
def writeOut (tool : Tool) (definition : Definition) : SessionM Unit := do
  settle (fun error => .library (.invalidName definition.name error))
    (checkStoredName definition.name)
  let data ← tool.encode [definition]
  let path := definition.name ++ Library.plainEnding
  writeFile path data
  say ("wrote " ++ path ++ " (" ++ natText data.length ++ " bytes)")

/-- Compiles descriptions, and stores the definitions or writes them to files. -/
def compileAll (tool : Tool) (paths : List Bytes) (stored : Bool) (output : Bytes) :
    SessionM Unit := do
  let definitions ← paths.mapM tool.compileFile
  if stored then do
    tool.openLibrary
    definitions.forM fun definition => do
      say ("stored " ++ (← tool.save definition))
  else if output.isEmpty then definitions.forM tool.writeOut
  else tool.bundle output definitions
  leave (.ofRecord ⟨.info, "compiled descriptions", [.count definitions.length]⟩)

/-- Shows the tables of definitions. -/
def dump (tool : Tool) (argument : Bytes) : SessionM Unit := do
  let (definitions, _) ← tool.readDefinitions argument
  definitions.forM fun definition => say definition.tables

/-- Tells that something failed. -/
def sayFailed (subject reason : Bytes) : SessionM Unit := say ("FAIL " ++ subject ++ ": " ++ reason)

/-- Checks that definitions are written as the bytes that they were read from, and tells whether
they are. -/
def verifyOne (tool : Tool) (argument : Bytes) : SessionM Bool := do
  let checked ← attempt do
    let (definitions, data) ← tool.readDefinitions argument
    return (definitions, data, ← tool.encode definitions)
  match checked with
  | .error error => sayFailed argument error.message; return false
  | .ok (definitions, data, again) =>
    if data = again then
      say ("OK " ++ argument ++ " (" ++ natText definitions.length ++ " definitions)")
      return true
    else
      sayFailed argument
        ("re-encoding differs (" ++ natText data.length ++ " vs " ++ natText again.length ++
        " bytes)")
      return false

/-- Checks definitions. -/
def verify (tool : Tool) (arguments : List Bytes) : SessionM Unit := do
  let passed ← arguments.mapM tool.verifyOne
  let failed := passed.count false
  if failed ≠ 0 then throw (.unverified failed arguments.length)

/-- Compiles a description, and writes and reads the definition. -/
def exercise (tool : Tool) (path : Bytes) : SessionM Unit := do
  let definition ← tool.compileFile path
  let data ← tool.encode [definition]
  discard (tool.decode data)

/-- Exercises descriptions and shows the meters. -/
def stats (tool : Tool) (paths : List Bytes) : SessionM Unit := do
  paths.forM fun path => do
    match ← attempt (tool.exercise path) with
    | .ok () => return
    | .error error => sayFailed path error.message
  let meters := (← get).trace.measures.foldl Meters.record .initial
  modify fun session =>
    { session with output := session.output ++ Screen.titled "Metrics" meters.lines }

/-- Why no engine can be reached at an address. -/
def unreachableReason (address : Bytes) : Bytes :=
  match Settings.scheme? address with
  | some scheme => if Settings.schemes.contains scheme then "connection refused" else badScheme
  | none => badScheme
where
  badScheme : Bytes := "invalid or unsupported transport"

/-- Sends definitions to an engine. -/
def send (tool : Tool) (argument address : Bytes) (awaited : Bool) : SessionM Unit := do
  let address := if address.isEmpty then tool.settings.address else address
  if address.isEmpty then throw .noAddress
  let (_, data) ← tool.readDefinitions argument
  match tool.engines.lookup address with
  | none => throw (.unreachable address (unreachableReason address))
  | some reply =>
    let delivery :=
      (Sender.start tool.settings.timeout).deliver tool.patience data awaited (.always reply)
    leave (delivery.trace data)
    delivery.acknowledged.forM fun reply => say ("acknowledged " ++ Text.quote reply)
    match delivery.failure with
    | some error => throw (.delivery error)
    | none => say ("sent " ++ natText data.length ++ " bytes to " ++ address)

/-- Shows the stored definitions. -/
def list (tool : Tool) : SessionM Unit := do
  tool.openLibrary
  let entries ← tool.entries
  if entries.isEmpty then say Browser.emptyText
  else entries.forM fun entry => say (Browser.entryLine entry)

/-- Deletes stored definitions. -/
def deleteAll (tool : Tool) (names : List Bytes) : SessionM Unit := do
  tool.openLibrary
  names.forM fun name => do
    tool.delete name
    say ("deleted " ++ name)

/-- Compiles changed descriptions into the library. Failures are told and do not stop it. -/
def rebuild (tool : Tool) (paths : List Bytes) : SessionM Unit :=
  paths.forM fun path => do
    let failed (message : Bytes) (error : CommandError) : SessionM Unit := do
      leave (.ofRecord ⟨.warn, message, [.path path, .error error.message]⟩)
      sayFailed path error.message
    match ← attempt (tool.compileFile path) with
    | .error error => failed "compile failed" error
    | .ok definition =>
      match ← attempt (tool.save definition) with
      | .error error => failed "store failed" error
      | .ok stored => say ("stored " ++ path ++ " -> " ++ stored)

/-- Opens the library and begins to watch a folder. -/
def watch (tool : Tool) (folder : Bytes) : SessionM FolderWatch := do
  tool.openLibrary
  let watch ← settle (.unwatchable folder) (FolderWatch.start (← get).tree folder)
  say ("watching " ++ folder ++ " (library " ++ tool.settings.folder ++ ")")
  return watch

/-- Opens the library for browsing. -/
def browse (tool : Tool) : SessionM Browser := do
  tool.openLibrary
  let tree := (← get).tree
  leave (tool.library.listTrace tree)
  settle .library (Browser.start tool.library tree)

/-- Does what a command is for, as far as it is done without waiting for anyone. -/
def run (tool : Tool) (verb : Verb) (given : GivenFlags) : SessionM Unit :=
  let first := given.rest.headD []
  match verb with
  | .compile => tool.compileAll given.rest ((given.truth? "store").getD false)
      ((given.text? "output").getD [])
  | .dump => tool.dump first
  | .verify => tool.verify given.rest
  | .stats => tool.stats given.rest
  | .send => tool.send first ((given.text? "addr").getD []) ((given.truth? "wait").getD true)
  | .libList => tool.list
  | .libDelete => tool.deleteAll given.rest
  | .watch => discard (tool.watch first)
  | .browse => discard tool.browse
  | _ => pure ()

end Patchbay.Tool
