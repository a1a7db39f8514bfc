import Patchbay.Command.Verb
import Patchbay.Delivery.Socket
import Patchbay.Description.Build
import Patchbay.Description.Load
import Patchbay.Library.Trace
import Patchbay.Settings.Load

/-! Sessions: the files, the output and the trace that commands work on. -/

namespace Patchbay

/-- Why a command fails. -/
inductive CommandError where
  | usage (error : UsageError)
  | settings (error : SettingsError)
  | load (error : LoadError)
  | build (path : Bytes) (error : BuildError)
  | fault (fault : Fault)
  | library (error : LibraryError)
  | files (failure : FileFailure)
  | unverified (failed total : Nat)
  | noAddress
  | unreachable (address reason : Bytes)
  | delivery (error : DeliveryError)
  | unwatchable (path : Bytes) (cause : FileCause)

/-- Why a command fails, in words. -/
def CommandError.message : CommandError → Bytes
  | .usage error => error.message
  | .settings error => error.message
  | .load error => error.message
  | .build path error => path ++ ": " ++ error.message
  | .fault found => found.message
  | .library error => error.message
  | .files failure => failure.message
  | .unverified failed total =>
    natText failed ++ " of " ++ natText total ++ " files failed verification"
  | .noAddress => "no engine address: pass --addr or set transport.addr"
  | .unreachable address reason => "failed to dial " ++ address ++ ": " ++ reason
  | .delivery error => error.message
  | .unwatchable path cause => "failed to watch " ++ path ++ ": " ++ cause.text

/-- Whether an error ends everything at once. -/
def CommandError.isFatal : CommandError → Bool
  | .load (.yaml _ .collectionKey) | .settings (.malformed _ .collectionKey) => true
  | _ => false

/-- What commands change: the files, what is written to the terminal, and what is left in the
journal and on the meters. -/
structure Session where
  tree : FileTree
  output : Bytes
  trace : Trace

/-- A session that has not done anything. -/
def Session.start (tree : FileTree) : Session := ⟨tree, [], .none⟩

/-- What a command works with. -/
structure Tool where
  settings : Settings
  /-- The addresses of engines, each with its answer to every delivery. -/
  engines : List (Bytes × Bytes)
  patience : Patience
  /-- What makes temporary names unique. -/
  token : Bytes

/-- A part of a command, which may have done something even when it fails. -/
abbrev SessionM := EStateM CommandError Session

namespace Session

/-- Writes a line. -/
def say (line : Bytes) : SessionM Unit :=
  modify fun session => { session with output := session.output ++ line ++ "\n" }

/-- Leaves a trace. -/
def leave (trace : Trace) : SessionM Unit :=
  modify fun session => { session with trace := session.trace ++ trace }

/-- A result as a part of a command. -/
def settle {ε α : Type} (wrap : ε → CommandError) : Except ε α → SessionM α
  | .ok result => pure result
  | .error error => throw (wrap error)

/-- Runs an operation of the library. -/
def change {α : Type} (operation : LibraryM α) : SessionM α := do
  let session ← get
  match operation.run session.tree with
  | .ok result tree => set { session with tree := tree }; return result
  | .error error tree => set { session with tree := tree }; throw (.library error)

/-- Runs a part of a command to its result, also when that is a failure, unless it ends
everything. -/
def attempt {α : Type} (part : SessionM α) : SessionM (Except CommandError α) := fun session =>
  match part session with
  | .ok result session => .ok (.ok result) session
  | .error error session =>
    if error.isFatal then .error error session else .ok (.error error) session

end Session

namespace Tool

open Session

/-- The library of the settings, before its folder is looked at. -/
def library (tool : Tool) : Library :=
  ⟨tool.settings.folder, tool.settings.compressed, Snappy.compress, tool.settings.strict,
    tool.token⟩

/-- Makes the library ready. -/
def openLibrary (tool : Tool) : SessionM Unit := do
  leave (tool.library.prepareTrace (← get).tree)
  change tool.library.prepare

/-- Stores a definition and gives its path. -/
def save (tool : Tool) (definition : Definition) : SessionM Bytes := do
  leave (tool.library.encodedTrace definition)
  leave (tool.library.saveTrace definition (← get).tree)
  change (tool.library.save definition)

/-- Deletes a stored definition. -/
def delete (tool : Tool) (name : Bytes) : SessionM Unit := do
  leave (tool.library.deleteTrace name (← get).tree)
  change (tool.library.delete name)

/-- A stored definition. -/
def load (tool : Tool) (name : Bytes) : SessionM Definition := do
  let tree := (← get).tree
  leave (tool.library.decodedTrace tree name)
  leave (tool.library.loadTrace tree name)
  settle .library (tool.library.load tree name)

/-- The bytes of a stored definition. -/
def read (tool : Tool) (name : Bytes) : SessionM Bytes := do
  let tree := (← get).tree
  leave (tool.library.readTrace tree name)
  settle .library (tool.library.read tree name)

/-- The stored definitions. -/
def entries (tool : Tool) : SessionM (List LibraryEntry) := do
  let tree := (← get).tree
  leave (tool.library.listTrace tree)
  settle .library (tool.library.list tree)

/-- Writes definitions as bytes. -/
def encode (tool : Tool) (definitions : List Definition) : SessionM Bytes := do
  leave (Stream.encodeTrace tool.settings.strict definitions)
  settle .fault (Stream.encode tool.settings.strict definitions)

/-- Reads bytes as definitions. -/
def decode (tool : Tool) (data : Bytes) : SessionM (List Definition) := do
  leave (Stream.decodeTrace tool.settings.strict data)
  settle .fault (Stream.decode tool.settings.strict data)

/-- Compiles the description in a file. -/
def compileFile (tool : Tool) (path : Bytes) : SessionM Definition := do
  let description ← settle .load (Description.load (← get).tree path)
  let built ← settle (.build path) description.build
  let name := if built.name.isEmpty then temporaryName tool.token else built.name
  leave (compileTrace built.graph built.roots tool.settings.rule name)
  settle .fault (compile built.graph built.roots tool.settings.rule name)

/-- The bytes in a file, decompressed where its name says so. -/
def readFile (path : Bytes) : SessionM Bytes := do
  let data ← settle .files ((← get).tree.read path)
  if Bytes.endsWith path Library.compressedEnding then
    match Snappy.decompress data with
    | some data => return data
    | none => throw (.library (.corrupt path))
  else return data

/-- The definitions that an argument stands for, and their bytes: those in a file, or else those in
the library. -/
def readDefinitions (tool : Tool) (argument : Bytes) : SessionM (List Definition × Bytes) := do
  let data ←
    if ((← get).tree.at? argument).isSome then readFile argument
    else do
      tool.openLibrary
      tool.read argument
  return (← tool.decode data, data)

/-- Writes a file and makes the folders above it. -/
def writeFile (path data : Bytes) : SessionM Unit := do
  let (failure, tree) := (← get).tree.writeBelow path data
  modify fun session => { session with tree := tree }
  match failure with
  | some failure => throw (.files failure)
  | none => return

end Tool

end Patchbay
