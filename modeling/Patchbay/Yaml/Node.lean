import Patchbay.Yaml.Lexer
import Patchbay.Yaml.Value

/-! Nodes: the tree of a document, made from its tokens. -/

namespace Patchbay.Yaml

/-- A node of a document with the line where it starts and its tag. -/
inductive Node where
  | scalar (line : Nat) (tag value : Bytes)
  | sequence (line : Nat) (tag : Bytes) (items : List Node)
  | mapping (line : Nat) (tag : Bytes) (entries : List (Node × Node))
  /-- Another node by the name of its anchor, with its number among the anchored nodes and a number
  of its own. -/
  | alias (line : Nat) (name : Bytes) (target occurrence : Nat)
  deriving Inhabited

namespace Node

/-- The line where a node starts. -/
def line : Node → Nat
  | .scalar line _ _ => line
  | .sequence line _ _ => line
  | .mapping line _ _ => line
  | .alias line _ _ _ => line

/-- The tag of a node; an alias has none of its own. -/
def tag : Node → Bytes
  | .scalar _ tag _ => tag
  | .sequence _ tag _ => tag
  | .mapping _ tag _ => tag
  | .alias .. => []

end Node

/-- A document: its root and its anchored nodes. -/
structure Document where
  root : Node
  anchored : Array Node

/-- The state of making nodes: how many tokens are used, and what names stand for. -/
structure Composer where
  source : TokenList
  position : Nat
  rules : List (List Char × Bytes)
  anchors : List (List Char × Nat)
  anchored : Array Node
  aliases : Nat

/-- A step of making nodes. -/
abbrev Compose := StateT Composer (Except Malformed)

namespace Compose

/-- Complains at a token. -/
def fail {α : Type} (token : Token) (problem : Bytes) : Compose α := throw ⟨token.line, problem⟩

/-- The next token. Reading tokens runs two of them ahead, and further while the next may still be a
key, so that what stopped it may be met early. -/
def peek : Compose Token := do
  let state ← get
  let tokens := state.source.tokens
  match state.source.stopped with
  | some (malformed, undecided) =>
    if tokens.size < state.position + 3 || undecided.contains state.position then throw malformed
  | none => pure ()
  return tokens[state.position]?.getD ⟨.streamEnd, 0⟩

/-- Steps over a token. -/
def skip : Compose Unit := modify fun state => { state with position := state.position + 1 }

/-- Steps over a token and looks at the one after it. -/
def advance : Compose Token := do
  skip
  peek

/-- The full name of a tag. -/
def expandTag (token : Token) (handle : List Char) (suffix : Bytes) : Compose Bytes := do
  if handle.isEmpty then return suffix
  match (← get).rules.lookup handle with
  | some expansion => return expansion ++ suffix
  | none => fail token "found undefined tag handle"

/-- The name of a tag as it is shown: tags of the schema are shortened. -/
def shortTag (tag : Bytes) : Bytes :=
  let schema := utf8 "tag:yaml.org,2002:"
  if schema.isPrefixOf tag then "!!" ++ tag.drop schema.length else tag

/-- The anchor and the tag in front of a node. -/
structure Properties where
  line : Nat
  anchor : Option (List Char)
  tag : Bytes

/-- Reads the anchor and the tag in front of a node, in either order. -/
def properties : Compose Properties := do
  let first ← peek
  match first.kind with
  | .anchor name =>
    let second ← advance
    match second.kind with
    | .tag handle suffix =>
      skip
      return ⟨first.line, some name, ← expandTag second handle suffix⟩
    | _ => return ⟨first.line, some name, []⟩
  | .tag handle suffix =>
    let second ← advance
    match second.kind with
    | .anchor name =>
      skip
      return ⟨first.line, some name, ← expandTag first handle suffix⟩
    | _ => return ⟨first.line, none, ← expandTag first handle suffix⟩
  | _ => return ⟨first.line, none, []⟩

/-- The tag of a node: the one it was given, or another where it was given none. -/
def tagOr (tag otherwise : Bytes) : Bytes :=
  if tag.isEmpty || tag == utf8 "!" then otherwise else shortTag tag

/-- A scalar node. A plain word has the tag of its value. -/
def scalarNode (given : Properties) (style : Style) (text : List Char) : Node :=
  let value := Text.ofChars text
  .scalar given.line
    (tagOr given.tag (if style = .plain then (valueOf true value).tag else "!!str")) value

/-- A node that is not there. -/
def emptyNode (line : Nat) : Node := .scalar line Value.null.tag []

/-- Registers an anchor before the node behind it is complete. -/
def declare (given : Properties) : Compose (Option Nat) := do
  match given.anchor with
  | none => return none
  | some name =>
    let state ← get
    let n := state.anchored.size
    set { state with
      anchors := (name, n) :: state.anchors
      anchored := state.anchored.push (emptyNode given.line) }
    return some n

/-- Completes an anchored node. -/
def complete (anchor : Option Nat) (node : Node) : Compose Node := do
  match anchor with
  | none => return node
  | some n =>
    modify fun state => { state with anchored := state.anchored.setIfInBounds n node }
    return node

/-- What may come in place of a missing node. -/
def endsPair (kind : TokenKind) : Bool := kind == .key || kind == .value || kind == .blockEnd

mutual

/-- Reads a node. In a block, indentation may open collections; after a key, a sequence may stand at
its depth. -/
def node (block afterKey : Bool) : Nat → Compose Node
  | 0 => do fail (← peek) "exceeded the depth of the document"
  | fuel + 1 => do
    let first ← peek
    match first.kind with
    | .alias name =>
      let state ← get
      match state.anchors.lookup name with
      | none => throw ⟨first.line, "unknown anchor '" ++ Text.ofChars name ++ "' referenced"⟩
      | some target =>
        set { state with position := state.position + 1, aliases := state.aliases + 1 }
        return .alias first.line (Text.ofChars name) target state.aliases
    | _ =>
      let given ← properties
      let token ← peek
      let sequenceTag := tagOr given.tag "!!seq"
      let mappingTag := tagOr given.tag "!!map"
      match token.kind with
      | .scalar style text =>
        skip
        let anchor ← declare given
        complete anchor (scalarNode given style text)
      | .flowSequence =>
        let anchor ← declare given
        skip
        complete anchor (.sequence given.line sequenceTag (← flowItems fuel true []))
      | .flowMapping =>
        let anchor ← declare given
        skip
        complete anchor (.mapping given.line mappingTag (← flowEntries fuel true []))
      | kind =>
        if afterKey && kind == .blockEntry then
          let anchor ← declare given
          complete anchor (.sequence given.line sequenceTag (← looseItems fuel []))
        else if block && kind == .blockSequence then
          let anchor ← declare given
          skip
          complete anchor (.sequence given.line sequenceTag (← blockItems fuel []))
        else if block && kind == .blockMapping then
          let anchor ← declare given
          skip
          complete anchor (.mapping given.line mappingTag (← blockEntries fuel []))
        else if given.anchor.isSome || !given.tag.isEmpty then
          let anchor ← declare given
          complete anchor (.scalar given.line (tagOr given.tag Value.null.tag) [])
        else fail token "did not find expected node content"

/-- Reads the items of a block sequence, those so far in reverse. -/
def blockItems : Nat → List Node → Compose (List Node)
  | 0, _ => do fail (← peek) "exceeded the depth of the document"
  | fuel + 1, items => do
    let token ← peek
    match token.kind with
    | .blockEntry =>
      let next ← advance
      if next.kind == .blockEntry || next.kind == .blockEnd then
        blockItems fuel (emptyNode token.line :: items)
      else blockItems fuel ((← node true false fuel) :: items)
    | .blockEnd =>
      skip
      return items.reverse
    | _ => fail token "did not find expected '-' indicator"

/-- Reads the items of a sequence that is no deeper than the key in front of it. -/
def looseItems : Nat → List Node → Compose (List Node)
  | 0, _ => do fail (← peek) "exceeded the depth of the document"
  | fuel + 1, items => do
    let token ← peek
    match token.kind with
    | .blockEntry =>
      let next ← advance
      if next.kind == .blockEntry || endsPair next.kind then
        looseItems fuel (emptyNode token.line :: items)
      else looseItems fuel ((← node true false fuel) :: items)
    | _ => return items.reverse

/-- Reads the entries of a block mapping. -/
def blockEntries : Nat → List (Node × Node) → Compose (List (Node × Node))
  | 0, _ => do fail (← peek) "exceeded the depth of the document"
  | fuel + 1, entries => do
    let token ← peek
    match token.kind with
    | .key =>
      let next ← advance
      let key ← if endsPair next.kind then pure (emptyNode token.line) else node true true fuel
      let value ← blockValue fuel
      blockEntries fuel ((key, value) :: entries)
    | .blockEnd =>
      skip
      return entries.reverse
    | _ => fail token "did not find expected key"

/-- Reads the value of a key in a block. -/
def blockValue : Nat → Compose Node
  | 0 => do fail (← peek) "exceeded the depth of the document"
  | fuel + 1 => do
    let token ← peek
    if token.kind == .value then
      let next ← advance
      if endsPair next.kind then return emptyNode token.line else node true true fuel
    else return emptyNode token.line

/-- Reads the items of a flow sequence. An item may be a single pair. -/
def flowItems : Nat → Bool → List Node → Compose (List Node)
  | 0, _, _ => do fail (← peek) "exceeded the depth of the document"
  | fuel + 1, first, items => do
    let token ← flowNext first .flowSequenceEnd "did not find expected ',' or ']'"
    match token.kind with
    | .flowSequenceEnd =>
      skip
      return items.reverse
    | .key =>
      skip
      let pair ← flowPair fuel
      flowItems fuel false (.mapping token.line "!!map" [pair] :: items)
    | _ => flowItems fuel false ((← node false false fuel) :: items)

/-- Steps over the comma before a further item. -/
def flowNext (first : Bool) (close : TokenKind) (problem : Bytes) : Compose Token := do
  let token ← peek
  if first || token.kind == close then return token
  else if token.kind == .flowEntry then advance
  else fail token problem

/-- Reads a pair that stands as an item of a flow sequence. -/
def flowPair : Nat → Compose (Node × Node)
  | 0 => do fail (← peek) "exceeded the depth of the document"
  | fuel + 1 => do
    let token ← peek
    let key ←
      if token.kind == .value || token.kind == .flowEntry || token.kind == .flowSequenceEnd then do
        skip
        pure (emptyNode token.line)
      else node false false fuel
    let token ← peek
    if token.kind == .value then
      let next ← advance
      if next.kind == .flowEntry || next.kind == .flowSequenceEnd then
        return (key, emptyNode next.line)
      else return (key, ← node false false fuel)
    else return (key, emptyNode token.line)

/-- Reads the entries of a flow mapping. An entry may be a key alone. -/
def flowEntries : Nat → Bool → List (Node × Node) → Compose (List (Node × Node))
  | 0, _, _ => do fail (← peek) "exceeded the depth of the document"
  | fuel + 1, first, entries => do
    let token ← flowNext first .flowMappingEnd "did not find expected ',' or '\x7d'"
    match token.kind with
    | .flowMappingEnd =>
      skip
      return entries.reverse
    | .key =>
      let next ← advance
      let key ←
        if next.kind == .value || next.kind == .flowEntry || next.kind == .flowMappingEnd then
          pure (emptyNode next.line)
        else node false false fuel
      let token ← peek
      if token.kind == .value then
        let next ← advance
        if next.kind == .flowEntry || next.kind == .flowMappingEnd then
          flowEntries fuel false ((key, emptyNode next.line) :: entries)
        else
          let value ← node false false fuel
          flowEntries fuel false ((key, value) :: entries)
      else flowEntries fuel false ((key, emptyNode token.line) :: entries)
    | _ =>
      let key ← node false false fuel
      flowEntries fuel false ((key, emptyNode (← peek).line) :: entries)

end

/-- The tag handles that need no directive. -/
def builtInRules : List (List Char × Bytes) :=
  [(['!'], utf8 "!"), ("!!".toList, utf8 "tag:yaml.org,2002:")]

/-- Reads the directives in front of a document. -/
def directives : Nat → Bool → List (List Char × Bytes) → Compose (List (List Char × Bytes))
  | 0, _, rules => return rules
  | fuel + 1, versioned, rules => do
    let token ← peek
    match token.kind with
    | .version major minor =>
      if versioned then fail token "found duplicate %YAML directive"
      if major ≠ 1 || minor ≠ 1 then fail token "found incompatible YAML document"
      skip
      directives fuel true rules
    | .tagRule handle expansion =>
      if (rules.lookup handle).isSome then fail token "found duplicate %TAG directive"
      skip
      directives fuel versioned (rules ++ [(handle, expansion)])
    | _ => return rules

/-- Reads the first document of a text, if there is one. -/
def document (fuel : Nat) : Compose (Option Node) := do
  skip
  let token ← peek
  match token.kind with
  | .streamEnd => return none
  | .version .. | .tagRule .. | .documentStart =>
    let rules ← directives fuel false []
    modify fun state => { state with rules := rules ++ builtInRules }
    let token ← peek
    if token.kind != .documentStart then fail token "did not find expected <document start>"
    let next ← advance
    match next.kind with
    | .version .. | .tagRule .. | .documentStart | .documentEnd | .streamEnd =>
      return some (emptyNode next.line)
    | _ =>
      let root ← node true false fuel
      discard peek
      return some root
  | _ =>
    let root ← node true false fuel
    discard peek
    return some root

end Compose

/-- The first document of a text, if there is one. What comes after it is not looked at. -/
def parse (text : Bytes) : Except Malformed (Option Document) := do
  let source := tokenize (.ofBytes text)
  let fuel := 4 * source.tokens.size + 4
  let (root, state) ← (Compose.document fuel).run ⟨source, 0, Compose.builtInRules, [], #[], 0⟩
  return root.map fun root => ⟨root, state.anchored⟩

end Patchbay.Yaml
