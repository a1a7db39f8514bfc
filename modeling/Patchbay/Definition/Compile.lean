import Patchbay.Definition.Basic
import Patchbay.Graph.Sequence

/-! Compilation: from the roots of a graph to a checked definition. -/

namespace Patchbay

/-- The name of a definition that was given none, made unique by a token. -/
def temporaryName (token : Bytes) : Bytes := "temp__" ++ token

/-- The definition of collected nodes in a sequence. -/
def Collection.define (collection : Collection) (graph : Graph) (rule : Dedup) (name : Bytes)
    (order : List Nat) : Definition :=
  let specials : Std.HashMap Nat Int :=
    (collection.nodes.zip collection.specials).foldl (fun m (n, s) => m.insert n s) ∅
  { name := name
    graph := graph
    nodes := order.map fun n => ⟨n, specials.getD n 0⟩
    constants := collection.constants
    controls := collection.controls.toList
    dedup := rule }

/-- Collects and sequences what the roots reach. -/
def arrange (graph : Graph) (roots : List Element) (rule : Dedup) (name : Bytes) :
    Except Fault Definition :=
  let collection := collect graph roots rule
  match sequence graph collection.nodes with
  | .error fault => .error { fault with definition := name }
  | .ok order => .ok (collection.define graph rule name order)

/-- Compiles what the roots reach into a checked definition. -/
def compile (graph : Graph) (roots : List Element) (rule : Dedup) (name : Bytes) :
    Except Fault Definition := do
  let definition ← arrange graph roots rule name
  definition.check
  return definition

end Patchbay
