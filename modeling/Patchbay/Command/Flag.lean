import Patchbay.Settings.Load

/-! Flags on a command line. -/

namespace Patchbay

/-- A flag of a command: it takes a text, or is a switch that may be given a truth value. -/
structure Flag where
  name : Bytes
  letter : Option UInt8
  isSwitch : Bool
  deriving DecidableEq, Repr

/-- How a flag is called in complaints. -/
def Flag.label (flag : Flag) : Bytes :=
  match flag.letter with
  | some letter => "-" ++ letter :: utf8 ", --" ++ flag.name
  | none => "--" ++ flag.name

/-- What can be wrong with flags. -/
inductive FlagError where
  | badSyntax (argument : Bytes)
  | unknown (name : Bytes)
  | unknownLetter (letter : UInt8) (letters : Bytes)
  | needsText (argument : Bytes)
  | letterNeedsText (letter : UInt8) (letters : Bytes)
  | noTruth (flag : Flag) (value : Bytes)
  deriving DecidableEq, Repr

/-- A character between single quotes. -/
def quoteLetter (letter : UInt8) : Bytes :=
  let escaped :=
    if letter = 39 then utf8 "\\'"
    else if letter = 34 then [34]
    else Text.quoteGlyph (.char (Char.ofNat letter.toNat))
  "'" ++ escaped ++ "'"

/-- What is wrong with flags, in words. -/
def FlagError.message : FlagError → Bytes
  | .badSyntax argument => "bad flag syntax: " ++ argument
  | .unknown name => "unknown flag: --" ++ name
  | .unknownLetter letter letters =>
    "unknown shorthand flag: " ++ quoteLetter letter ++ " in -" ++ letters
  | .needsText argument => "flag needs an argument: " ++ argument
  | .letterNeedsText letter letters =>
    "flag needs an argument: " ++ quoteLetter letter ++ " in -" ++ letters
  | .noTruth flag value =>
    "invalid argument " ++ Text.quote value ++ " for " ++ Text.quote flag.label ++ " flag: " ++
      Text.noTruthText value

/-- The flags that were given, in order, and the other arguments. -/
structure GivenFlags where
  values : List (Bytes × Bytes)
  rest : List Bytes
  deriving DecidableEq, Repr

namespace GivenFlags

/-- The last text given for a flag. -/
def text? (given : GivenFlags) (name : Bytes) : Option Bytes := given.values.reverse.lookup name

/-- The last truth value given for a switch. -/
def truth? (given : GivenFlags) (name : Bytes) : Option Bool := (given.text? name).bind Text.truth?

end GivenFlags

namespace Flag

/-- The byte that flags start with. -/
def dash : UInt8 := 45

/-- The byte between a flag and its value. -/
def equals : UInt8 := 61

/-- The flag with a name. -/
def named? (flags : List Flag) (name : Bytes) : Option Flag := flags.find? (·.name == name)

/-- The flag with a letter. -/
def lettered? (flags : List Flag) (letter : UInt8) : Option Flag :=
  flags.find? (·.letter == some letter)

/-- A value for a flag, which a switch takes only if it is a truth value. -/
def take (flag : Flag) (value : Bytes) : Except FlagError (Bytes × Bytes) :=
  if flag.isSwitch && (Text.truth? value).isNone then .error (.noTruth flag value)
  else .ok (flag.name, value)

/-- Reads a flag by its name, given what follows the two dashes and the arguments after it. -/
def readNamed (flags : List Flag) (name : Bytes) (rest : List Bytes) :
    Except FlagError ((Bytes × Bytes) × List Bytes) := do
  let argument := dash :: dash :: name
  if name.head? == some dash || name.head? == some equals then throw (.badSyntax argument)
  let (name, value?) := match Bytes.cut? equals name with
    | some (name, value) => (name, some value)
    | none => (name, none)
  match named? flags name, value?, rest with
  | none, _, _ => throw (.unknown name)
  | some flag, some value, rest => return (← flag.take value, rest)
  | some flag, none, rest =>
    if flag.isSwitch then return ((flag.name, utf8 "true"), rest)
    else
      match rest with
      | value :: rest => return ((flag.name, value), rest)
      | [] => throw (.needsText argument)

/-- What letters that are passed over start with. -/
def ignored : Bytes := "test."

/-- Reads flags by their letters. The last one may take what follows it, or the next argument. -/
def readLetters (flags : List Flag) :
    Bytes → List Bytes → Except FlagError (List (Bytes × Bytes) × List Bytes)
  | [], rest => return ([], rest)
  | letter :: more, rest =>
    if ignored.isPrefixOf (letter :: more) then return ([], rest)
    else match lettered? flags letter with
    | none => throw (.unknownLetter letter (letter :: more))
    | some flag =>
      match more, rest with
      | 61 :: b :: value, rest => return ([← flag.take (b :: value)], rest)
      | more, rest =>
        if flag.isSwitch then do
          let (values, rest) ← readLetters flags more rest
          return ((flag.name, utf8 "true") :: values, rest)
        else
          match more, rest with
          | _ :: _, rest => return ([(flag.name, more)], rest)
          | [], value :: rest => return ([(flag.name, value)], rest)
          | [], [] => throw (.letterNeedsText letter [letter])

/-- Reads flags and other arguments in any order; after two dashes there are no more flags. -/
def readFrom (flags : List Flag) : Nat → List Bytes → Except FlagError GivenFlags
  | _, [] => return ⟨[], []⟩
  | 0, rest => return ⟨[], rest⟩
  | fuel + 1, argument :: rest =>
    match argument with
    | [45, 45] => return ⟨[], rest⟩
    | 45 :: 45 :: name => do
      let (value, rest) ← readNamed flags name rest
      let given ← readFrom flags fuel rest
      return { given with values := value :: given.values }
    | 45 :: letter :: letters => do
      let (values, rest) ← readLetters flags (letter :: letters) rest
      let given ← readFrom flags fuel rest
      return { given with values := values ++ given.values }
    | _ => do
      let given ← readFrom flags fuel rest
      return { given with rest := argument :: given.rest }

/-- Reads the flags and the other arguments of a command. -/
def read (flags : List Flag) (arguments : List Bytes) : Except FlagError GivenFlags :=
  readFrom flags arguments.length arguments

end Flag

end Patchbay
