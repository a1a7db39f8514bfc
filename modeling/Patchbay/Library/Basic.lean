import Patchbay.Files.Tree
import Patchbay.Library.Name
import Patchbay.Quicksort
import Patchbay.Snappy
import Patchbay.Stream.Read
import Patchbay.Stream.Write

/-! The library: a folder with one file per definition, plain or compressed. -/

namespace Patchbay

/-- A folder of definitions, and how new ones are written. -/
structure Library where
  folder : Bytes
  /-- Whether new definitions are compressed. -/
  compressed : Bool
  /-- The compressor of new definitions. -/
  compress : Bytes → Bytes
  /-- Whether definitions with inconsistent parameters are refused. -/
  strict : Bool
  /-- The end of the name of files that are being written. -/
  token : Bytes

/-- A stored definition. -/
structure LibraryEntry where
  name : Bytes
  path : Bytes
  size : Nat
  compressed : Bool
  deriving DecidableEq, Repr

/-- How the disk answers when a new file is written and closed: with the cause where that fails. -/
structure DiskAnswers where
  /-- How many bytes are written before writing fails, and why it does. -/
  write : Option (Nat × FileCause)
  close : Option FileCause
  deriving DecidableEq, Repr

namespace DiskAnswers

/-- A disk that takes everything. -/
def sound : DiskAnswers := ⟨none, none⟩

/-- What a new file holds once content was written to it. -/
def taken (disk : DiskAnswers) (content : Bytes) : Bytes :=
  match disk.write with
  | none => content
  | some (count, _) => content.take count

end DiskAnswers

/-- Why an operation of the library fails. -/
inductive LibraryError where
  | invalidName (name : Bytes) (error : NameError)
  | notFound (name : Bytes)
  /-- The file holds several definitions, none of this name. -/
  | lacks (path name : Bytes)
  /-- The definition cannot be written or the file cannot be read as one. -/
  | fault (fault : Fault)
  | corrupt (path : Bytes)
  /-- A folder stands where the file should be. -/
  | folderInPlace (path : Bytes)
  /-- A step on the file system failed. -/
  | files (action : Bytes) (failure : FileFailure)
  deriving DecidableEq, Repr

/-- Why an operation of the library fails, in words. -/
def LibraryError.message : LibraryError → Bytes
  | .invalidName name error => error.message name
  | .notFound name => "definition not found: " ++ Text.quote name
  | .lacks path name => "definition not found: " ++ path ++ " does not contain " ++ Text.quote name
  | .fault found => found.message
  | .corrupt path => "failed to decompress " ++ path ++ ": snappy: corrupt input"
  | .folderInPlace path => "failed to read " ++ path ++ ": no such device"
  | .files action failure => "failed to " ++ action ++ ": " ++ failure.message

/-- An operation on the library, which may change files even when it fails. -/
abbrev LibraryM := EStateM LibraryError FileTree

namespace Library

/-- The end of the names of plain files. -/
def plainEnding : Bytes := ".scsyndef"

/-- The end of the names of compressed files. -/
def compressedEnding : Bytes := ".scsyndef.sz"

/-- The end of the names of files of a format. -/
def ending (compressed : Bool) : Bytes := if compressed then compressedEnding else plainEnding

/-- The path of a definition in a format. -/
def pathOf (library : Library) (name : Bytes) (compressed : Bool) : Bytes :=
  Path.join library.folder (name ++ ending compressed)

/-- The name and format that a file name stands for, if it is that of a definition. -/
def parseFileName (file : Bytes) : Option (Bytes × Bool) :=
  let parsed :=
    if Bytes.endsWith file compressedEnding then some (Bytes.dropEnding file compressedEnding, true)
    else if Bytes.endsWith file plainEnding then some (Bytes.dropEnding file plainEnding, false)
    else none
  parsed.filter fun (name, _) => (checkStoredName name).isOk

/-- The entry of a file in the folder. One whose path, as it stands, leads nowhere is left out. -/
def entryOf (library : Library) (tree : FileTree) : Bytes × Place → Option LibraryEntry
  | (_, .folder) => none
  | (file, .file content) =>
    if (tree.at? (library.folder ++ Path.slash :: file)).isNone then none
    else
      (parseFileName file).map fun (name, compressed) =>
        ⟨name, Path.join library.folder file, content.length, compressed⟩

/-- Entries in order of their names. Two of one name stand as sorting in place leaves them. -/
def sorted (entries : List LibraryEntry) : List LibraryEntry :=
  (Quicksort.sort (fun a b => Bytes.less a.name b.name) entries.toArray).toList

/-- The stored definitions in order of their names. -/
def list (library : Library) (tree : FileTree) : Except LibraryError (List LibraryEntry) := do
  let files ← (tree.list library.folder).mapError (LibraryError.files "read library directory")
  return sorted (files.filterMap (library.entryOf tree))

/-- The path and format of a stored definition; a plain file comes first. -/
def locate (library : Library) (tree : FileTree) (name : Bytes) :
    Except LibraryError (Bytes × Bool) :=
  match [false, true].find? fun compressed =>
    (tree.at? (library.pathOf name compressed)).isSome with
  | some compressed => .ok (library.pathOf name compressed, compressed)
  | none => .error (.notFound name)

/-- The content of a file, decompressed where needed. -/
def content (tree : FileTree) (path : Bytes) (compressed : Bool) : Except LibraryError Bytes :=
  match tree.at? path with
  | some (.file content) =>
    if compressed then
      match Snappy.decompress content with
      | some data => .ok data
      | none => .error (.corrupt path)
    else .ok content
  | _ => .error (.folderInPlace path)

/-- The bytes of a stored definition and the path they were read from. -/
def fetch (library : Library) (tree : FileTree) (name : Bytes) :
    Except LibraryError (Bytes × Bytes) := do
  (checkStoredName name).mapError (LibraryError.invalidName name)
  let (path, compressed) ← library.locate tree name
  return (← content tree path compressed, path)

/-- The bytes of a stored definition. -/
def read (library : Library) (tree : FileTree) (name : Bytes) : Except LibraryError Bytes :=
  (library.fetch tree name).map (·.1)

/-- The definition that a file holds under a name: the first of that name, or else the only one. -/
def choose (path name : Bytes) (definitions : List Definition) : Except LibraryError Definition :=
  match definitions.find? (·.name == name), definitions with
  | some found, _ => .ok found
  | none, [only] => .ok only
  | none, _ => .error (.lacks path name)

/-- A stored definition. -/
def load (library : Library) (tree : FileTree) (name : Bytes) : Except LibraryError Definition := do
  let (data, path) ← library.fetch tree name
  let definitions ← (Stream.decode library.strict data).mapError LibraryError.fault
  choose path name definitions

/-- What the library writes for the bytes of a definition. -/
def written (library : Library) (data : Bytes) : Bytes :=
  if library.compressed then library.compress data else data

/-- The bytes of a definition as the library writes them. -/
def encoded (library : Library) (definition : Definition) : Except LibraryError Bytes := do
  let data ← (Stream.encode library.strict [definition]).mapError LibraryError.fault
  return library.written data

/-- The path of a file that is being written; it is none that exists. -/
def scratchPath (library : Library) (tree : FileTree) : Nat → Bytes → Bytes
  | 0, token => library.folder ++ Path.slash :: utf8 ".synthdef-" ++ token
  | fuel + 1, token =>
    let path := library.folder ++ Path.slash :: utf8 ".synthdef-" ++ token
    if (tree.at? path).isSome then scratchPath library tree fuel (token ++ [48]) else path

/-- Runs a step on the file system that leaves all as it was when it fails. -/
def step (action : Bytes) (change : FileTree → Except FileFailure FileTree) : LibraryM Unit := do
  match change (← get) with
  | .ok tree => set tree
  | .error failure => throw (.files action failure)

/-- Takes away a file that was being written, and fails. -/
def abandon (scratch action : Bytes) (failure : FileFailure) : LibraryM Unit := do
  modify fun tree => (tree.remove scratch).toOption.getD tree
  throw (.files action failure)

/-- Ends the writing of a file. It is taken away where writing or closing it failed, or where it
cannot be moved into place. -/
def finish (scratch path : Bytes) (disk : DiskAnswers) : LibraryM Unit := do
  match disk.write, disk.close with
  | some (_, cause), _ => abandon scratch "write definition" ⟨"write", [scratch], cause⟩
  | none, some cause => abandon scratch "close definition" ⟨"close", [scratch], cause⟩
  | none, none =>
    match (← get).move scratch path with
    | .ok tree => set tree
    | .error failure => abandon scratch "move definition into place" failure

/-- Writes a file all at once: a new one is made and written beside it, and then moved into
place. -/
def replace (library : Library) (path data : Bytes) (disk : DiskAnswers) : LibraryM Unit := do
  let tree ← get
  let scratch := library.scratchPath tree tree.places.length library.token
  step "create temp file" fun tree => tree.write scratch []
  modify fun tree => (tree.write scratch (disk.taken data)).toOption.getD tree
  finish scratch path disk

/-- Stores a definition under its name, in place of what was stored under it, and gives its path. -/
def save (library : Library) (definition : Definition) (disk : DiskAnswers := .sound) :
    LibraryM Bytes := do
  match checkStoredName definition.name with
  | .error error => throw (.invalidName definition.name error)
  | .ok () =>
    match library.encoded definition with
    | .error error => throw error
    | .ok data =>
      let path := library.pathOf definition.name library.compressed
      library.replace path data disk
      match (← get).remove (library.pathOf definition.name !library.compressed) with
      | .ok tree => set tree
      | .error failure =>
        if failure.cause != .notFound then throw (.files "remove stale definition" failure)
      return path

/-- Removes a stored definition. -/
def delete (library : Library) (name : Bytes) : LibraryM Unit := do
  match checkStoredName name with
  | .error error => throw (.invalidName name error)
  | .ok () =>
    match library.locate (← get) name with
    | .error error => throw error
    | .ok (path, _) => step ("delete " ++ path) fun tree => tree.remove path

/-- Makes the folder of a library where it is missing, and looks into it. -/
def prepare (library : Library) : LibraryM Unit := do
  let (failure, tree) := (← get).ensureFolder library.folder
  set tree
  match failure with
  | some failure => throw (.files "create library directory" failure)
  | none =>
    match library.list tree with
    | .ok _ => return
    | .error error => throw error

end Library

end Patchbay
