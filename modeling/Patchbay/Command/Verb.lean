import Patchbay.Command.Flag
import Patchbay.Text.Case

/-! The commands of the tool and the way from a command line to one of them. -/

namespace Patchbay

/-- The commands; some only hold others. -/
inductive Verb where
  | root
  | compile
  | dump
  | verify
  | watch
  | stats
  | send
  | lib
  | libList
  | libDelete
  | browse
  | help
  | completion
  deriving DecidableEq, Repr

/-- How many arguments a command takes. -/
inductive ArgumentCount where
  | any
  | none
  | atLeast (n : Nat)
  | exactly (n : Nat)
  deriving DecidableEq, Repr

/-- What can be wrong with a command line. -/
inductive UsageError where
  | flag (error : FlagError)
  | unknownCommand (name path : Bytes) (suggestions : List Bytes)
  | tooFew (least given : Nat)
  | wrongCount (wanted given : Nat)
  deriving DecidableEq, Repr

/-- What is wrong with a command line, in words. -/
def UsageError.message : UsageError → Bytes
  | .flag error => error.message
  | .unknownCommand name path suggestions =>
    let hint : Bytes := if suggestions.isEmpty then []
      else "\n\nDid you mean this?\n" ++
        suggestions.flatMap fun suggestion => utf8 "\t" ++ suggestion ++ utf8 "\n"
    "unknown command " ++ Text.quote name ++ " for " ++ Text.quote path ++ hint
  | .tooFew least given =>
    "requires at least " ++ natText least ++ " arg(s), only received " ++ natText given
  | .wrongCount wanted given =>
    "accepts " ++ natText wanted ++ " arg(s), received " ++ natText given

namespace Verb

/-- The word for a command. -/
def name : Verb → Bytes
  | .root => "synthdef"
  | .compile => "compile"
  | .dump => "dump"
  | .verify => "verify"
  | .watch => "watch"
  | .stats => "stats"
  | .send => "send"
  | .lib => "lib"
  | .libList => "list"
  | .libDelete => "delete"
  | .browse => "browse"
  | .help => "help"
  | .completion => "completion"

/-- The commands inside a command. -/
def children : Verb → List Verb
  | .root => [.compile, .dump, .verify, .watch, .stats, .send, .lib, .browse, .help, .completion]
  | .lib => [.libList, .libDelete]
  | _ => []

/-- The words that lead to a command. -/
def path : Verb → Bytes
  | .root => name .root
  | .libList => name .root ++ " lib list"
  | .libDelete => name .root ++ " lib delete"
  | verb => name .root ++ " " ++ verb.name

/-- How many arguments a command takes. -/
def count : Verb → ArgumentCount
  | .compile | .verify | .stats | .libDelete => .atLeast 1
  | .dump | .watch | .send => .exactly 1
  | .libList | .browse => .none
  | _ => .any

/-- Whether a command does something by itself. -/
def runs : Verb → Bool
  | .root | .lib | .help | .completion => false
  | _ => true

/-- The flags of all commands. -/
def commonFlags : List Flag :=
  [⟨"config", none, false⟩, ⟨"strict", none, true⟩, ⟨"log-level", none, false⟩,
    ⟨"library", none, false⟩]

/-- The flags of a command. -/
def flags : Verb → List Flag
  | .compile => ⟨"output", some 111, false⟩ :: ⟨"store", none, true⟩ :: commonFlags
  | .send => ⟨"addr", none, false⟩ :: ⟨"wait", none, true⟩ :: commonFlags
  | _ => commonFlags

/-- The flag that asks for help. -/
def helpFlag : Flag := ⟨"help", some 104, true⟩

/-- The number of bytes to change, add or drop between two texts. -/
def distance (source target : Bytes) : Nat :=
  let first := List.range (target.length + 1)
  let last := source.foldl (fun row b =>
    let start := row.headD 0 + 1
    let (next, _) :=
      (target.zip (row.zip row.tail)).foldl (fun (next, left) (t, (diagonal, above)) =>
      let cost := if t = b then diagonal else min (min left above) diagonal + 1
      (next ++ [cost], cost)) ([start], start)
    next) first
  last.getLastD 0

/-- Whether a command is close to what was written. -/
def resembles (verb : Verb) (written : Bytes) : Bool :=
  let written := Text.lower written
  distance written verb.name ≤ 2 || written.isPrefixOf verb.name

/-- The commands that may have been meant. -/
def suggestions (verb : Verb) (written : Bytes) : List Bytes :=
  (verb.children.filter fun child => child != .help && child.resembles written).map name

/-- Whether an argument is a flag whose value is the next argument, as far as a command's flags
tell. -/
def takesNext (verb : Verb) (argument : Bytes) : Bool :=
  let isSwitch (flag : Option Flag) : Bool := flag.any Flag.isSwitch
  match argument with
  | 45 :: 45 :: name => !name.contains Flag.equals && !isSwitch (Flag.named? verb.flags name)
  | [45, letter] => letter != Flag.equals && !isSwitch (Flag.lettered? verb.flags letter)
  | _ => false

/-- The arguments that are no flags and no values of flags. -/
def words (verb : Verb) : Nat → List Bytes → List Bytes
  | _, [] => []
  | 0, _ => []
  | fuel + 1, argument :: rest =>
    if argument = [45, 45] then []
    else if verb.takesNext argument then
      match rest with
      | _ :: next :: rest => words verb fuel (next :: rest)
      | _ => []
    else if argument.isEmpty || argument.head? == some Flag.dash then words verb fuel rest
    else argument :: words verb fuel rest

/-- The arguments without the first one that is a given word, and no flag or value of one. -/
def without (verb : Verb) (word : Bytes) : Nat → List Bytes → List Bytes
  | _, [] => []
  | 0, arguments => arguments
  | fuel + 1, argument :: rest =>
    if argument = [45, 45] then argument :: rest
    else if verb.takesNext argument then
      match rest with
      | value :: rest => argument :: value :: without verb word fuel rest
      | [] => [argument]
    else if argument = word then rest
    else argument :: without verb word fuel rest

/-- The command that a command line leads to from another, and what is left of the line. -/
def find : Nat → Verb → List Bytes → Verb × List Bytes
  | 0, verb, arguments => (verb, arguments)
  | depth + 1, verb, arguments =>
    match verb.words arguments.length arguments with
    | [] => (verb, arguments)
    | word :: _ =>
      match verb.children.find? (·.name == word) with
      | some child => find depth child (verb.without word arguments.length arguments)
      | none => (verb, arguments)

/-- Checks the number of arguments. -/
def checkCount (verb : Verb) (arguments : List Bytes) : Except UsageError Unit :=
  match verb.count, arguments with
  | .none, argument :: _ => .error (.unknownCommand argument verb.path [])
  | .atLeast n, _ => if arguments.length < n then .error (.tooFew n arguments.length) else .ok ()
  | .exactly n, _ => if arguments.length ≠ n then .error (.wrongCount n arguments.length)
      else .ok ()
  | _, _ => .ok ()

end Verb

/-- What a command line asks for. -/
inductive Request where
  | run (verb : Verb) (given : GivenFlags)
  | help (verb : Verb)
  deriving DecidableEq, Repr

/-- Reads a command line. -/
def Request.read (arguments : List Bytes) : Except UsageError Request := do
  let (verb, arguments) := Verb.find 3 .root arguments
  match verb, verb.words arguments.length arguments with
  | .root, word :: _ => throw (.unknownCommand word verb.path (verb.suggestions word))
  | _, _ => pure ()
  let given ← (Flag.read (Verb.helpFlag :: verb.flags) arguments).mapError UsageError.flag
  if given.truth? "help" = some true || !verb.runs then return .help verb
  verb.checkCount given.rest
  return .run verb given

end Patchbay
