import Patchbay.Journal.Trace
import Patchbay.Library.Basic

/-! What the operations of the library leave in the journal and on the meters. -/

namespace Patchbay

/-- How an operation of the library ended. -/
def LibraryError.status : LibraryError → Status
  | .fault found => .failed found.kind
  | _ => .failed .unknown

/-- How a result of the library ended. -/
def libraryStatus {α : Type} : Except LibraryError α → Status
  | .ok _ => .success
  | .error error => error.status

/-- The result of an operation on a tree. -/
def LibraryM.result {α : Type} (operation : LibraryM α) (tree : FileTree) : Except LibraryError α :=
  match operation.run tree with
  | .ok result _ => .ok result
  | .error error _ => .error error

/-- The tree after an operation. -/
def LibraryM.after {α : Type} (operation : LibraryM α) (tree : FileTree) : FileTree :=
  match operation.run tree with
  | .ok _ tree => tree
  | .error _ tree => tree

namespace Library

/-- A record of the library. -/
def record (library : Library) (message : Bytes) (fields : List Field) : Trace :=
  .ofRecord ⟨.info, message, .component "library" :: .path library.folder :: fields⟩

/-- The measure of an operation. -/
def measured (operation : Bytes) (status : Status) : Trace := .ofMeasure (.library operation status)

/-- The measure of the number of stored definitions. -/
def counted (library : Library) (tree : FileTree) : Trace :=
  match library.list tree with
  | .ok entries => .ofMeasure (.stored entries.length)
  | .error _ => .none

/-- What making ready leaves behind. -/
def prepareTrace (library : Library) (tree : FileTree) : Trace :=
  let after := LibraryM.after library.prepare tree
  match LibraryM.result library.prepare tree with
  | .ok () => measured "list" .success ++ library.counted after
  | .error (.files action _) =>
    if action = utf8 "create library directory" then .none else measured "list" (.failed .unknown)
  | .error error => measured "list" error.status

/-- What listing leaves behind. -/
def listTrace (library : Library) (tree : FileTree) : Trace :=
  measured "list" (libraryStatus (library.list tree))

/-- What reading the bytes of a definition leaves behind. -/
def readTrace (library : Library) (tree : FileTree) (name : Bytes) : Trace :=
  measured "read" (libraryStatus (library.read tree name))

/-- What reading the bytes as definitions leaves behind. -/
def decodedTrace (library : Library) (tree : FileTree) (name : Bytes) : Trace :=
  match library.fetch tree name with
  | .ok (data, _) => Stream.decodeTrace library.strict data
  | .error _ => .none

/-- What loading leaves behind, besides what reading the bytes as definitions does. -/
def loadTrace (library : Library) (tree : FileTree) (name : Bytes) : Trace :=
  measured "load" (libraryStatus (library.load tree name))

/-- What writing a definition as bytes leaves behind. -/
def encodedTrace (library : Library) (definition : Definition) : Trace :=
  match checkStoredName definition.name with
  | .ok () => Stream.encodeTrace library.strict [definition]
  | .error _ => .none

/-- What storing leaves behind, besides what writing the definition as bytes does. -/
def saveTrace (library : Library) (definition : Definition) (tree : FileTree)
    (disk : DiskAnswers := .sound) : Trace :=
  let result := LibraryM.result (library.save definition disk) tree
  let told := match result, library.encoded definition with
    | .ok _, .ok data =>
      library.record "definition saved" [.definition definition.name, .bytes data.length,
        .flag "compressed" library.compressed] ++
      library.counted (LibraryM.after (library.save definition disk) tree)
    | _, _ => .none
  told ++ measured "save" (libraryStatus result)

/-- What deleting leaves behind. -/
def deleteTrace (library : Library) (name : Bytes) (tree : FileTree) : Trace :=
  let result := LibraryM.result (library.delete name) tree
  let told := match result with
    | .ok () =>
      library.record "definition deleted" [.definition name] ++
      library.counted (LibraryM.after (library.delete name) tree)
    | .error _ => .none
  told ++ measured "delete" (libraryStatus result)

end Library

end Patchbay
