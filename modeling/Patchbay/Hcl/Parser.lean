import Patchbay.Hcl.Token
import Patchbay.Hcl.Template

/-! Reading HCL: from tokens to bodies and expressions. -/

namespace Patchbay.Hcl

/-- A reader of tokens that may fail. -/
abbrev Reader := StateT (List Token) Option

namespace Reader

/-- The tokens from the next one that counts; inside brackets the ends of lines do not. -/
def rest (lines : Bool) : Reader (List Token) := do
  let tokens ← get
  return if lines then tokens else tokens.dropWhile (·.word == .newline)

/-- The next token, without taking it. -/
def peek (lines : Bool) : Reader (Option Token) := return (← rest lines).head?

/-- Takes the next token. -/
def take (lines : Bool) : Reader Token := do
  match ← rest lines with
  | token :: after => set after; return token
  | [] => failure

/-- Takes the next token if it is the given one. -/
def accept (lines : Bool) (word : Word) : Reader Bool := do
  match ← rest lines with
  | token :: after => if token.word == word then set after; return true else return false
  | [] => return false

/-- Takes the next token, which must be the given one. -/
def expect (lines : Bool) (word : Word) : Reader Unit := do
  if !(← accept lines word) then failure

/-- Takes a name. -/
def name (lines : Bool) : Reader Bytes := do
  match (← take lines).word with
  | .name text => return text
  | _ => failure

end Reader

/-- The operators of each level, the loosest first. -/
def operatorLevels : List (List (Mark × Operator)) := [
  [(.either, .either)],
  [(.both, .both)],
  [(.equal, .equal), (.notEqual, .notEqual)],
  [(.greater, .greater), (.greaterEqual, .greaterEqual), (.less, .less), (.lessEqual, .lessEqual)],
  [(.plus, .add), (.minus, .subtract)],
  [(.star, .multiply), (.slash, .divide), (.percent, .remainder)]]

/-- The operator that a token stands for among those of a level. -/
def operator? (level : List (Mark × Operator)) : Option Token → Option Operator
  | some ⟨_, .mark mark⟩ => level.lookup mark
  | _ => none

/-- An expression with one more step behind it. -/
def Expr.step (source : Expr) (step : Step) : Expr :=
  match source with
  | .steps inner path => .steps inner (path ++ [step])
  | _ => .steps source [step]

/-- The value of a key that is written out. -/
def constantKey? : Expr → Option Value
  | .literal _ value => some value
  | .template _ [.literal _ value] => some value
  | _ => none

/-- The steps after a splat with a point: fields, and indices written as numbers. -/
def fieldSteps : Nat → Bool → List Step → Reader (List Step)
  | 0, _, _ => failure
  | fuel + 1, lines, steps => do
    match ← Reader.peek lines with
    | some ⟨line, .mark .dot⟩ =>
      let _ ← Reader.take lines
      match (← Reader.take lines).word with
      | .name text => fieldSteps fuel lines (steps ++ [.field line text])
      | .number text =>
        if text.contains (Decimal.byte '.') then failure
        else match Wide.read text with
          | some key => fieldSteps fuel lines (steps ++ [.index line (.number key)])
          | none => failure
      | _ => failure
    | _ => return steps

mutual

/-- An expression. -/
def expression : Nat → Bool → Reader Expr
  | 0, _ => failure
  | fuel + 1, lines => do
    let condition ← operation fuel lines operatorLevels
    if ← Reader.accept lines (.mark .question) then
      let yes ← expression fuel lines
      Reader.expect lines (.mark .colon)
      let no ← expression fuel lines
      return .conditional condition yes no
    else return condition

/-- An operation of the given levels or tighter ones. -/
def operation : Nat → Bool → List (List (Mark × Operator)) → Reader Expr
  | 0, _, _ => failure
  | fuel + 1, lines, [] => do
    let source ← term fuel lines
    traversal fuel lines source
  | fuel + 1, lines, level :: tighter => do
    let first ← operation fuel lines tighter
    operationTail fuel lines level tighter first

/-- Further operands of one level, grouped from the left. -/
def operationTail : Nat → Bool → List (Mark × Operator) → List (List (Mark × Operator)) → Expr →
    Reader Expr
  | 0, _, _, _, _ => failure
  | fuel + 1, lines, level, tighter, left => do
    match operator? level (← Reader.peek lines) with
    | some operator =>
      let _ ← Reader.take lines
      let right ← operation fuel lines tighter
      operationTail fuel lines level tighter (.binary operator left right)
    | none => return left

/-- The steps behind a term. -/
def traversal : Nat → Bool → Expr → Reader Expr
  | 0, _, _ => failure
  | fuel + 1, lines, source => do
    match ← Reader.peek lines with
    | some ⟨line, .mark .dot⟩ =>
      let _ ← Reader.take lines
      match (← Reader.take lines).word with
      | .name text => traversal fuel lines (source.step (.field line text))
      | .number text =>
        if text.contains (Decimal.byte '.') then failure
        else match Wide.read text with
          | some key => traversal fuel lines (source.step (.index line (.number key)))
          | none => failure
      | .mark .star =>
        let steps ← fieldSteps fuel lines []
        let item : Expr := .item line
        traversal fuel lines
          (.splat line source (if steps.isEmpty then item else .steps item steps))
      | _ => failure
    | some ⟨line, .mark .bracketOpen⟩ =>
      let _ ← Reader.take lines
      if ← Reader.accept lines (.mark .star) then
        Reader.expect lines (.mark .bracketClose)
        let each ← traversal fuel lines (.item line)
        traversal fuel lines (.splat line source each)
      else
        let key ← expression fuel false
        Reader.expect false (.mark .bracketClose)
        match constantKey? key with
        | some value => traversal fuel lines (source.step (.index line value))
        | none => traversal fuel lines (.index line source key)
    | _ => return source

/-- A term. -/
def term : Nat → Bool → Reader Expr
  | 0, _ => failure
  | fuel + 1, lines => do
    let token ← Reader.take lines
    let line := token.line
    match token.word with
    | .mark .parenOpen =>
      let inner ← expression fuel false
      Reader.expect false (.mark .parenClose)
      return .parens line inner
    | .number text =>
      match Wide.read text with
      | some value => return .literal line (.number value)
      | none => failure
    | .name text =>
      match ← Reader.peek lines with
      | some ⟨_, .mark .parenOpen⟩ =>
        let _ ← Reader.take lines
        arguments fuel
        return .call line
      | some ⟨_, .mark .doubleColon⟩ =>
        functionPath fuel lines
        arguments fuel
        return .call line
      | _ =>
        return if text = utf8 "true" then .literal line (.flag true)
          else if text = utf8 "false" then .literal line (.flag false)
          else if text = utf8 "null" then .literal line (.null .dynamic)
          else .variable line text
    | .quoteOpen => template fuel line .quoteClose false
    | .heredocOpen flush => template fuel line .heredocClose flush
    | .mark .minus =>
      let source ← term fuel lines
      return .negate line (← traversal fuel lines source)
    | .mark .bang =>
      let source ← term fuel lines
      return .not line (← traversal fuel lines source)
    | .mark .bracketOpen =>
      match ← Reader.peek false with
      | some ⟨_, .name text⟩ =>
        if text = utf8 "for" then loop fuel line .bracketClose
        else return .tuple line (← items fuel)
      | _ => return .tuple line (← items fuel)
    | .mark .braceOpen =>
      match ← Reader.peek false with
      | some ⟨_, .name text⟩ =>
        if text = utf8 "for" then loop fuel line .braceClose
        else return .object line (← fields fuel)
      | _ => return .object line (← fields fuel)
    | _ => failure

/-- The further parts of a qualified function name, up to its parenthesis. -/
def functionPath : Nat → Bool → Reader Unit
  | 0, _ => failure
  | fuel + 1, lines => do
    if ← Reader.accept lines (.mark .doubleColon) then
      let _ ← Reader.name lines
      functionPath fuel lines
    else Reader.expect lines (.mark .parenOpen)

/-- The arguments of a function, to the closing parenthesis. No function is known, so they only have
to be well formed. -/
def arguments : Nat → Reader Unit
  | 0 => failure
  | fuel + 1 => do
    if ← Reader.accept false (.mark .parenClose) then return
    let _ ← expression fuel false
    match (← Reader.take false).word with
    | .mark .parenClose => return
    | .mark .ellipsis => Reader.expect false (.mark .parenClose)
    | .mark .comma => arguments fuel
    | _ => failure

/-- The items of a tuple, to the closing bracket. -/
def items : Nat → Reader (List Expr)
  | 0 => failure
  | fuel + 1 => do
    if ← Reader.accept false (.mark .bracketClose) then return []
    let first ← expression fuel false
    match (← Reader.take false).word with
    | .mark .bracketClose => return [first]
    | .mark .comma => return first :: (← items fuel)
    | _ => failure

/-- The fields of an object, to the closing brace; lines separate them too. -/
def fields : Nat → Reader (List (Expr × Bool × Expr))
  | 0 => failure
  | fuel + 1 => do
    match ← Reader.peek true with
    | some ⟨_, .newline⟩ =>
      let _ ← Reader.take true
      fields fuel
    | some ⟨_, .mark .braceClose⟩ =>
      let _ ← Reader.take true
      return []
    | start =>
      let forced := start.any (·.word == .mark .parenOpen)
      let key ← expression fuel true
      match (← Reader.take true).word with
      | .mark .assign | .mark .colon =>
        let value ← expression fuel true
        match (← Reader.take true).word with
        | .mark .braceClose => return [(key, forced, value)]
        | .mark .comma | .newline => return (key, forced, value) :: (← fields fuel)
        | _ => failure
      | _ => failure

/-- The names of a loop: a value, or a key and a value. -/
def loopNames : Nat → Reader (Option Bytes × Bytes)
  | 0 => failure
  | _ + 1 => do
    let first ← Reader.name false
    let names ← if ← Reader.accept false (.mark .comma) then pure (some first, ← Reader.name false)
      else pure (none, first)
    Reader.expect false (.name (utf8 "in"))
    return names

/-- A loop that makes a tuple or an object, after its opening bracket. -/
def loop : Nat → Nat → Mark → Reader Expr
  | 0, _, _ => failure
  | fuel + 1, line, close => do
    Reader.expect false (.name (utf8 "for"))
    let (keyName, valueName) ← loopNames fuel
    let source ← expression fuel false
    Reader.expect false (.mark .colon)
    let first ← expression fuel false
    let second ← if ← Reader.accept false (.mark .fatArrow) then some <$> expression fuel false
      else pure none
    let group ← Reader.accept false (.mark .ellipsis)
    let condition ← if ← Reader.accept false (.name (utf8 "if")) then some <$> expression fuel false
      else pure none
    Reader.expect false (.mark close)
    match second with
    | none =>
      if group || close != .bracketClose then failure
      else return .tupleLoop line keyName valueName source first condition
    | some value =>
      if close != .braceClose then failure
      else return .objectLoop line keyName valueName source first value group condition

/-- A text with holes, after its opening mark. -/
def template : Nat → Nat → Word → Bool → Reader Expr
  | 0, _, _, _ => failure
  | fuel + 1, line, close, flush => do
    let bodyLine := ((← Reader.peek true).map (·.line)).getD line
    let parts ← templateParts fuel close false []
    match Template.build line bodyLine flush parts with
    | some expr => return expr
    | none => failure

/-- The parts of a template, to its closing mark; `trim` removes the white space at the start of a
literal. -/
def templateParts : Nat → Word → Bool → List Part → Reader (List Part)
  | 0, _, _, _ => failure
  | fuel + 1, close, trim, parts => do
    let token ← Reader.take true
    if token.word == close then return parts.reverse
    match token.word with
    | .literal text =>
      let text := if trim then Text.trimStart text else text
      templateParts fuel close false (.literal token.line text :: parts)
    | .holeOpen trimBefore =>
      let parts := if trimBefore then Template.trimLast parts else parts
      let value ← expression fuel false
      match (← Reader.take false).word with
      | .holeClose trimAfter => templateParts fuel close trimAfter (.hole value :: parts)
      | _ => failure
    | .directiveOpen trimBefore =>
      let parts := if trimBefore then Template.trimLast parts else parts
      let part ← directive fuel token.line
      match (← Reader.take false).word with
      | .holeClose trimAfter => templateParts fuel close trimAfter (part :: parts)
      | _ => failure
    | _ => failure

/-- A directive of a template, up to its end. -/
def directive : Nat → Nat → Reader Part
  | 0, _ => failure
  | fuel + 1, line => do
    let keyword ← Reader.name false
    if keyword = utf8 "if" then return .ifOpen (← expression fuel false)
    else if keyword = utf8 "else" then return .elseMark
    else if keyword = utf8 "endif" then return .ifClose
    else if keyword = utf8 "endfor" then return .forClose
    else if keyword = utf8 "for" then
      let (keyName, valueName) ← loopNames fuel
      return .forOpen line keyName valueName (← expression fuel false)
    else failure

end

/-- A label in quotes, after the opening one: literals only. -/
def labelText : Nat → Bytes → Reader Bytes
  | 0, _ => failure
  | fuel + 1, text => do
    match (← Reader.take true).word with
    | .quoteClose => return text
    | .literal more => labelText fuel (text ++ more)
    | _ => failure

/-- The labels of a block and the line of its opening brace. -/
def labels : Nat → Reader (List (Nat × Bytes) × Nat)
  | 0 => failure
  | fuel + 1 => do
    let token ← Reader.take true
    match token.word with
    | .mark .braceOpen => return ([], token.line)
    | .quoteOpen =>
      let text ← labelText fuel []
      let (more, brace) ← labels fuel
      return ((token.line, text) :: more, brace)
    | .name text =>
      let (more, brace) ← labels fuel
      return ((token.line, text) :: more, brace)
    | _ => failure

/-- The end of the text or of a line. -/
def lineEnd : Reader Unit := do
  match ← get with
  | [] => return
  | ⟨_, .newline⟩ :: rest => set rest
  | _ => failure

mutual

/-- The arguments and blocks of a body; a block's body ends with its brace. -/
def bodyItems : Nat → Nat → Bool → List Argument → List (Heading × Body) →
    Reader (List Argument × List (Heading × Body))
  | 0, _, _, _, _ => failure
  | fuel + 1, depth, nested, arguments, blocks => do
    match ← Reader.peek true with
    | none => if nested then failure else return (arguments.reverse, blocks.reverse)
    | some ⟨_, .newline⟩ =>
      let _ ← Reader.take true
      bodyItems fuel depth nested arguments blocks
    | some ⟨_, .mark .braceClose⟩ =>
      if !nested then failure
      let _ ← Reader.take true
      return (arguments.reverse, blocks.reverse)
    | some ⟨line, .name text⟩ =>
      let _ ← Reader.take true
      if ← Reader.accept true (.mark .assign) then
        if arguments.any (·.name == text) then failure
        let value ← expression depth true
        lineEnd
        bodyItems fuel depth nested (⟨line, text, value⟩ :: arguments) blocks
      else
        let (labels, braceLine) ← labels depth
        let body ← blockBody fuel depth braceLine
        lineEnd
        bodyItems fuel depth nested arguments ((⟨line, text, labels, braceLine⟩, body) :: blocks)
    | some _ => failure

/-- The body of a block, after its opening brace. On one line it holds at most one argument. -/
def blockBody : Nat → Nat → Nat → Reader Body
  | 0, _, _ => failure
  | fuel + 1, depth, braceLine => do
    match ← Reader.peek true with
    | some ⟨line, .name text⟩ =>
      let _ ← Reader.take true
      Reader.expect true (.mark .assign)
      let value ← expression depth true
      Reader.expect true (.mark .braceClose)
      return .mk line [⟨line, text, value⟩] []
    | some ⟨_, .newline⟩ | some ⟨_, .mark .braceClose⟩ =>
      let (arguments, blocks) ← bodyItems fuel depth true [] []
      return .mk braceLine arguments blocks
    | _ => failure

end

/-- Reads a whole text; `none` when it is not well formed. -/
def parse (text : Bytes) : Option Body := do
  let (tokens, lastLine) ← tokenize text
  let depth := 12 * tokens.length + 24
  let ((arguments, blocks), _) ← (bodyItems (2 * tokens.length + 2) depth false [] []).run tokens
  return .mk ((tokens.head?.map (·.line)).getD lastLine) arguments blocks

end Patchbay.Hcl
