import Patchbay.Yaml.Block
import Patchbay.Yaml.Scalar
import Patchbay.Yaml.Source
import Patchbay.Yaml.Tag

/-! From characters to tokens. Indentation opens and closes blocks, and a word turns out to be a key
only when the colon after it is found; its token is then put in front of the word. -/

namespace Patchbay.Yaml

/-- A word or collection that may turn out to be a key: the place of its token and of its text. -/
structure KeyPlace where
  token : Nat
  required : Bool
  index : Nat
  line : Nat
  column : Nat

/-- The state between two tokens. -/
structure Lexer where
  cursor : Cursor
  tokens : Array Token
  indent : Int
  outer : List Int
  /-- The possible key of each level, the innermost level first. There is one level more than open
  flows. -/
  keys : List (Option KeyPlace)
  keyAllowed : Bool
  /-- Whether a line has ended since the last word. -/
  broken : Bool
  /-- How many characters of the text the last step looked at. -/
  reach : Nat

namespace Lexer

/-- The state before the first token of a text. -/
def start (text : List Char) : Lexer :=
  ⟨.start text, #[⟨.streamStart, 1⟩], -1, [], [none], true, false, 0⟩

/-- Whether a flow collection is open. -/
def inFlow (lexer : Lexer) : Bool := 1 < lexer.keys.length

/-- The line of the cursor, counted from one. -/
def line (lexer : Lexer) : Nat := lexer.cursor.line + 1

/-- Adds a token. -/
def push (lexer : Lexer) (kind : TokenKind) (line : Nat) : Lexer :=
  { lexer with tokens := lexer.tokens.push ⟨kind, line⟩ }

/-- The longest text between the start of a key and the colon after it. -/
def keyReach : Nat := 1024

/-- Whether the colon of a key may still come: on the same line and not too far away. -/
def reaches (lexer : Lexer) (key : KeyPlace) : Bool :=
  key.line == lexer.cursor.line && lexer.cursor.index ≤ key.index + keyReach

/-- Gives up the possible key of the innermost level. -/
def dropKey (lexer : Lexer) : Except Malformed Lexer :=
  match lexer.keys with
  | some key :: levels =>
    if key.required then .error ⟨key.line + 1, "could not find expected ':'"⟩
    else .ok { lexer with keys := none :: levels }
  | _ => .ok lexer

/-- Keeps in mind that the next token may be a key. -/
def saveKey (lexer : Lexer) : Except Malformed Lexer :=
  if lexer.keyAllowed then do
    let lexer ← lexer.dropKey
    let cursor := lexer.cursor
    let required := !lexer.inFlow && lexer.indent == cursor.column
    let key : KeyPlace := ⟨lexer.tokens.size, required, cursor.index, cursor.line, cursor.column⟩
    return { lexer with keys := some key :: lexer.keys.tail }
  else .ok lexer

/-- How deep collections may be nested. -/
def depthLimit : Nat := 10000

/-- Opens a block at a column that is deeper than the open ones, with a token put in at a place. -/
def openBlock (lexer : Lexer) (column : Nat) (place : Nat) (kind : TokenKind) (line : Nat) :
    Except Malformed Lexer :=
  if lexer.inFlow || column ≤ lexer.indent then .ok lexer
  else if depthLimit ≤ lexer.outer.length then lexer.cursor.fail "exceeded max depth of 10000"
  else
    .ok { lexer with
      indent := column
      outer := lexer.indent :: lexer.outer
      tokens := lexer.tokens.insertIdxIfInBounds place ⟨kind, line⟩ }

/-- Closes the blocks that are deeper than a column, given the outer ones. -/
def closeBlocks (column : Int) (line : Nat) :
    List Int → Int → Array Token → Int × List Int × Array Token
  | [], indent, tokens => (indent, [], tokens)
  | next :: outer, indent, tokens =>
    if column < indent then closeBlocks column line outer next (tokens.push ⟨.blockEnd, line⟩)
    else (indent, next :: outer, tokens)

/-- Closes the blocks that are deeper than a column. -/
def closeTo (lexer : Lexer) (column : Int) : Lexer :=
  if lexer.inFlow then lexer
  else
    let (indent, outer, tokens) :=
      closeBlocks column lexer.line lexer.outer lexer.indent lexer.tokens
    { lexer with indent := indent, outer := outer, tokens := tokens }

/-- How far behind the end of a comment the next one may start. -/
def commentReach : Nat := 511

/-- Skips a comment and the comments on the lines after it that start near enough. -/
def skipComments : Nat → Cursor → Cursor
  | 0, cursor => cursor
  | fuel + 1, cursor =>
    let behind := cursor.skipLine
    let width := (behind.rest.takeWhile fun c => isBlank c || c == '\n' || c == '\r').length
    match behind.gap 0 with
    | .ok (_, next) =>
      if next.isAt '#' && next.index = behind.index + width && width ≤ commentReach then
        skipComments fuel next
      else behind
    | .error _ => behind

/-- Skips blanks, comments and line ends up to the next token. A tab may not stand where a key
may. -/
def skipToToken : Nat → Lexer → Lexer
  | 0, lexer => lexer
  | fuel + 1, lexer =>
    let tabs := lexer.inFlow || !lexer.keyAllowed
    let cursor := lexer.cursor
    let cursor := if cursor.column == 0 && cursor.isAt '\ufeff' then cursor.skip 1 else cursor
    let cursor := (cursor.span fun c => c == ' ' || (tabs && c == '\t')).2
    let cursor := if cursor.isAt '#' then skipComments (cursor.rest.length + 1) cursor else cursor
    match cursor.lineBreak? with
    | some (_, below) =>
      skipToToken fuel
        { lexer with cursor := below, keyAllowed := lexer.keyAllowed || !lexer.inFlow }
    | none => { lexer with cursor := cursor }

/-- Takes down that some characters were looked at. -/
def look (lexer : Lexer) (reach : Nat) : Lexer := { lexer with reach := max lexer.reach reach }

/-- Skips a comment that stands on the line of a token. -/
def skipLineComment (lexer : Lexer) : Lexer :=
  let (_, cursor) := lexer.cursor.span isBlank
  if cursor.isAt '#' then
    let behind := cursor.skipLine
    { lexer with cursor := behind }.look (behind.index + 1)
  else lexer.look (cursor.index + 1)

/-- Adds a token of some characters that are skipped. -/
def mark (lexer : Lexer) (kind : TokenKind) (width : Nat) : Lexer :=
  { lexer.push kind lexer.line with cursor := lexer.cursor.skip width, broken := false }

/-- Ends all blocks at the bounds of a document. -/
def endBlocks (lexer : Lexer) : Except Malformed Lexer := do
  let lexer ← (lexer.closeTo (-1)).dropKey
  return { lexer with keyAllowed := false }

/-- The token that opens a flow collection. -/
def openFlow (lexer : Lexer) (kind : TokenKind) : Except Malformed Lexer := do
  let lexer ← lexer.saveKey
  if depthLimit < lexer.keys.length then lexer.cursor.fail "exceeded max depth of 10000"
  return { lexer.mark kind 1 with keys := none :: lexer.keys, keyAllowed := true }

/-- The token that closes a flow collection. -/
def closeFlow (lexer : Lexer) (kind : TokenKind) : Except Malformed Lexer := do
  let lexer ← lexer.dropKey
  let keys := if lexer.inFlow then lexer.keys.tail else lexer.keys
  return { lexer.mark kind 1 with keys := keys, keyAllowed := false }

/-- The comma of a flow collection. -/
def flowEntry (lexer : Lexer) : Except Malformed Lexer := do
  let lexer ← lexer.dropKey
  return { lexer.mark .flowEntry 1 with keyAllowed := true }

/-- The dash of a block sequence. -/
def blockEntry (lexer : Lexer) : Except Malformed Lexer := do
  if !lexer.inFlow && !lexer.keyAllowed then
    lexer.cursor.fail "block sequence entries are not allowed in this context"
  let lexer ← lexer.openBlock lexer.cursor.column lexer.tokens.size .blockSequence lexer.line
  let lexer ← lexer.dropKey
  return { lexer.mark .blockEntry 1 with keyAllowed := true }

/-- The question mark before a key. -/
def explicitKey (lexer : Lexer) : Except Malformed Lexer := do
  if !lexer.inFlow && !lexer.keyAllowed then
    lexer.cursor.fail "mapping keys are not allowed in this context"
  let lexer ← lexer.openBlock lexer.cursor.column lexer.tokens.size .blockMapping lexer.line
  let lexer ← lexer.dropKey
  return { lexer.mark .key 1 with keyAllowed := !lexer.inFlow }

/-- The colon of a key that was found before it. -/
def valueOfKey (lexer : Lexer) (key : KeyPlace) : Except Malformed Lexer := do
  let line := key.line + 1
  let lexer := { lexer with tokens := lexer.tokens.insertIdxIfInBounds key.token ⟨.key, line⟩ }
  let lexer ← lexer.openBlock key.column key.token .blockMapping line
  return { lexer.mark .value 1 with keys := none :: lexer.keys.tail, keyAllowed := false }

/-- The colon without a key in front of it. -/
def loneValue (lexer : Lexer) : Except Malformed Lexer := do
  if !lexer.inFlow && !lexer.keyAllowed then
    lexer.cursor.fail "mapping values are not allowed in this context"
  let lexer ← lexer.openBlock lexer.cursor.column lexer.tokens.size .blockMapping lexer.line
  return { lexer.mark .value 1 with keyAllowed := !lexer.inFlow }

/-- The colon before a value. -/
def valueMark (lexer : Lexer) : Except Malformed Lexer :=
  match lexer.keys with
  | some key :: levels =>
    if lexer.reaches key then lexer.valueOfKey key
    else if key.required then .error ⟨key.line + 1, "could not find expected ':'"⟩
    else { lexer with keys := none :: levels }.loneValue
  | _ => lexer.loneValue

/-- A token that may be a key, made by a reader of its text. -/
def wordToken (lexer : Lexer) (read : Cursor → Except Malformed (TokenKind × Cursor)) :
    Except Malformed Lexer := do
  let lexer ← lexer.saveKey
  let (kind, cursor) ← read lexer.cursor
  return { lexer.push kind lexer.line with cursor := cursor, keyAllowed := false, broken := false }

/-- A scalar that may be a key. After a plain one that ran over the end of its line a key may
come. -/
def scalarToken (lexer : Lexer) (style : Style) (read : Cursor → Except Malformed Reading) :
    Except Malformed Lexer := do
  let lexer ← lexer.saveKey
  let reading ← read lexer.cursor
  let lexer := { lexer.push (.scalar style reading.text) lexer.line with
    cursor := reading.cursor
    keyAllowed := reading.broken
    broken := reading.broken }
  return lexer.look reading.reach

/-- A block scalar, after which a key may come. -/
def blockToken (lexer : Lexer) (literal : Bool) : Except Malformed Lexer := do
  let lexer ← lexer.dropKey
  let (text, cursor) ← blockScalar lexer.cursor literal lexer.indent
  return { lexer.push (.scalar .block text) lexer.line with
    cursor := cursor, keyAllowed := true, broken := true }

/-- Whether a plain scalar may start with a text. -/
def opensPlain (flow : Bool) : List Char → Bool
  | [] => false
  | c :: rest =>
    if c == '-' then !(rest.head?.any isBlank)
    else if c == '?' || c == ':' then !flow && !endsWord rest
    else !(isBlank c || isBreak c) && !",[]\x7b\x7d#&*!|>'\"%@`".toList.contains c

/-- A token inside a document. -/
def contentToken (lexer : Lexer) : Except Malformed Lexer :=
  let cursor := lexer.cursor
  let rest := cursor.rest
  let spaced := endsWord (rest.drop 1)
  let flow := lexer.inFlow
  match rest.head? with
  | some '[' => lexer.openFlow .flowSequence
  | some '\x7b' => lexer.openFlow .flowMapping
  | some ']' => lexer.closeFlow .flowSequenceEnd
  | some '\x7d' => lexer.closeFlow .flowMappingEnd
  | some ',' => lexer.flowEntry
  | some '*' => lexer.wordToken fun cursor => do
    let (name, cursor) ← anchorName cursor
    return (.alias name, cursor)
  | some '&' => lexer.wordToken fun cursor => do
    let (name, cursor) ← anchorName cursor
    return (.anchor name, cursor)
  | some '!' => lexer.wordToken tagToken
  | some '\'' => lexer.scalarToken .quoted fun cursor => quotedScalar cursor '\''
  | some '"' => lexer.scalarToken .quoted fun cursor => quotedScalar cursor '"'
  | first =>
    if first == some '-' && spaced then lexer.blockEntry
    else if first == some '?' && (flow || spaced) then lexer.explicitKey
    else if first == some ':' && (flow || spaced) then lexer.valueMark
    else if first == some '|' && !flow then lexer.blockToken true
    else if first == some '>' && !flow then lexer.blockToken false
    else if opensPlain flow rest then lexer.scalarToken .plain (plainScalar flow (lexer.indent + 1))
    else cursor.fail "found character that cannot start any token"

/-- The next token, with those that the end of blocks puts in front of it. -/
def step (lexer : Lexer) : Except Malformed Lexer := do
  let lexer := lexer.skipToToken (lexer.cursor.rest.length + 1)
  let lexer := (lexer.closeTo lexer.cursor.column).look (lexer.cursor.index + 4)
  let cursor := lexer.cursor
  if cursor.rest.isEmpty then
    let lexer ← lexer.endBlocks
    return lexer.push .streamEnd lexer.line
  else if cursor.column == 0 && cursor.isAt '%' then
    let lexer ← lexer.endBlocks
    let (kind, cursor) ← directiveToken lexer.cursor
    return { lexer.push kind lexer.line with cursor := cursor }.look (cursor.index + 1)
  else if cursor.boundary '-' then
    let lexer ← lexer.endBlocks
    return lexer.mark .documentStart 3
  else if cursor.boundary '.' then
    let lexer ← lexer.endBlocks
    return lexer.mark .documentEnd 3
  else
    let lexer ← lexer.contentToken
    let lexer := lexer.look (lexer.cursor.index + 1)
    return if (lexer.tokens.back?.any fun token => token.kind == .blockEntry) || lexer.broken then
      lexer
      else lexer.skipLineComment

end Lexer

/-- The tokens of a text up to its end or to the first that is malformed. -/
structure TokenList where
  tokens : Array Token
  /-- What stopped the reading of tokens, and which tokens could still have become keys then. -/
  stopped : Option (Malformed × List Nat)

/-- The tokens that can still become keys. -/
def Lexer.undecided (lexer : Lexer) : List Nat :=
  lexer.keys.filterMap fun key => key.bind fun key => if lexer.reaches key then some key.token
    else none

/-- Reads tokens to the end of the text, or to where it cannot be read. -/
def Lexer.run (limit : Option Nat) : Nat → Lexer → TokenList
  | 0, lexer => ⟨lexer.tokens, none⟩
  | fuel + 1, lexer =>
    match lexer.step with
    | .error malformed => ⟨lexer.tokens, some (malformed, lexer.undecided)⟩
    | .ok next =>
      if limit.any (· < next.reach) then
        ⟨lexer.tokens, some (⟨next.line, "invalid characters"⟩, lexer.undecided)⟩
      else if next.tokens.back?.any fun token => token.kind == .streamEnd then ⟨next.tokens, none⟩
      else run limit fuel next

/-- The tokens of a text. -/
def tokenize (source : Source) : TokenList :=
  (Lexer.start source.chars).run source.limit (2 * source.chars.length + 2)

end Patchbay.Yaml
