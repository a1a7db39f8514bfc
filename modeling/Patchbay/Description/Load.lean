import Patchbay.Description.Hcl
import Patchbay.Description.Yaml
import Patchbay.Files.Tree

/-! Descriptions in files: the extension tells the format. -/

namespace Patchbay

/-- The formats of descriptions. -/
inductive DescriptionFormat where
  | yaml
  | hcl
  deriving DecidableEq, Repr

/-- The format that a path's extension stands for. -/
def DescriptionFormat.ofPath? (path : Bytes) : Option DescriptionFormat :=
  let kind := Path.kind path
  if kind = utf8 ".yaml" || kind = utf8 ".yml" then some .yaml
  else if kind = utf8 ".hcl" then some .hcl
  else none

/-- Whether a path is that of a description. -/
def isDescription (path : Bytes) : Bool := (DescriptionFormat.ofPath? path).isSome

/-- Why a file gives no description. -/
inductive LoadError where
  | unreadable (path : Bytes) (failure : FileFailure)
  | unknownFormat (path : Bytes)
  | yaml (path : Bytes) (error : Yaml.Error)
  | hcl (path : Bytes) (error : HclError)

/-- Why a file gives no description, in words. -/
def LoadError.message : LoadError → Bytes
  | .unreadable path failure => "failed to read description " ++ path ++ ": " ++ failure.message
  | .unknownFormat path => "unsupported description format " ++ Text.quote (Path.kind path)
  | .yaml path error => "failed to parse description " ++ path ++ ": " ++ error.message
  | .hcl path error => "failed to parse description " ++ path ++ ": " ++ error.message

namespace Description

/-- Reads a text in a format. -/
def parse (path : Bytes) (text : Bytes) : DescriptionFormat → Except LoadError Description
  | .yaml => (ofYaml text).mapError (LoadError.yaml path)
  | .hcl => (ofHcl text).mapError (LoadError.hcl path)

/-- The name that a description takes from its file. -/
def nameOfPath (path : Bytes) : Bytes := Bytes.dropEnding (Path.base path) (Path.extension path)

/-- The description in a file. One without a name takes that of the file. -/
def load (tree : FileTree) (path : Bytes) : Except LoadError Description := do
  let text ← (tree.read path).mapError (LoadError.unreadable path)
  match DescriptionFormat.ofPath? path with
  | none => throw (.unknownFormat path)
  | some format =>
    let description ← parse path text format
    if description.name.isEmpty then return { description with name := nameOfPath path }
    else return description

end Description

end Patchbay
