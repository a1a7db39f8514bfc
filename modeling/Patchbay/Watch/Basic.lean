import Patchbay.Files.Path
import Patchbay.Journal.Trace

/-! Watching a folder: changes are gathered until the folder is quiet, and then handed on
together. -/

namespace Patchbay

/-- What can happen to a file. -/
inductive ChangeKind where
  | create
  | remove
  | write
  | rename
  | attributes
  deriving DecidableEq, Repr

/-- The name of a kind of change. -/
def ChangeKind.name : ChangeKind → Bytes
  | .create => "CREATE"
  | .remove => "REMOVE"
  | .write => "WRITE"
  | .rename => "RENAME"
  | .attributes => "CHMOD"

/-- A report that something happened to a file. -/
structure FileChange where
  path : Bytes
  kinds : List ChangeKind
  deriving DecidableEq, Repr

/-- Whether the file may have new content or a new name. -/
def FileChange.matters (change : FileChange) : Bool :=
  change.kinds.any fun kind => kind == .create || kind == .write || kind == .rename

/-- What a watcher looks at: a folder, and the paths of interest in it. -/
structure Watcher where
  folder : Bytes
  accepts : Bytes → Bool

/-- A clock that runs out after a while, and leaves a note when it does. -/
inductive Clock where
  | running
  /-- The clock has run out, and its note has not been taken. -/
  | struck
  /-- The clock was stopped, or its note has been taken. -/
  | stopped
  deriving DecidableEq, Repr

namespace Clock

/-- The time of a clock has passed. -/
def strike : Clock → Clock
  | .running => .struck
  | clock => clock

/-- Stops a clock, and says whether it was running. One that has run out keeps its note. -/
def stop : Clock → Clock × Bool
  | .running => (.stopped, true)
  | clock => (clock, false)

/-- Takes the note of a clock, if there is one. -/
def drain : Clock → Clock
  | .struck => .stopped
  | clock => clock

/-- Sets a clock again. A note that was not taken is still there. -/
def reset : Clock → Clock
  | .struck => .struck
  | _ => .running

end Clock

/-- The changes that were not handed on yet, and the clock that waits for quiet, if there is one. -/
structure WatchState where
  pending : List Bytes
  clock : Option Clock
  deriving DecidableEq, Repr

/-- What a watcher reacts to. -/
inductive WatchInput where
  | change (change : FileChange)
  /-- The clock runs out: the folder has been quiet for long enough. -/
  | expired
  /-- The note of the clock is taken. -/
  | quiet
  /-- The reports have a gap or a failure. -/
  | trouble (reason : Bytes)
  /-- There will be no more reports. -/
  | closed
  /-- The watch is called off. -/
  | done
  deriving DecidableEq, Repr

/-- How a watch ends. -/
inductive WatchEnd where
  | calledOff
  | closed
  deriving DecidableEq, Repr

/-- What a watcher does about an input. -/
structure WatchStep where
  state : WatchState
  /-- The paths that are handed on, if any. -/
  batch : Option (List Bytes)
  finished : Option WatchEnd
  trace : Trace

namespace WatchState

/-- The state of a watch that has just begun. -/
def start : WatchState := ⟨[], none⟩

/-- The clock is there, and will strike or has struck. -/
def armed (state : WatchState) : Bool :=
  state.clock == some .running || state.clock == some .struck

/-- A clock that starts anew: one that is there is stopped, rid of its note and set again. -/
def rewound : Option Clock → Clock
  | none => .running
  | some clock =>
    let (clock, running) := clock.stop
    (if running then clock else clock.drain).reset

/-- Adds a path, and starts the wait for quiet anew. A path that is there already is not added
again. -/
def add (state : WatchState) (path : Bytes) : WatchState :=
  ⟨if state.pending.contains path then state.pending else state.pending ++ [path],
    some (rewound state.clock)⟩

/-- The pending paths in order, if there are any. -/
def batch (state : WatchState) : Option (List Bytes) :=
  if state.pending.isEmpty then none else some (state.pending.mergeSort Bytes.notAfter)

end WatchState

namespace Watcher

/-- A record of a watcher. -/
def record (watcher : Watcher) (level : Level) (message : Bytes) (fields : List Field) : Trace :=
  .ofRecord ⟨level, message, .component "watch" :: .path watcher.folder :: fields⟩

/-- The path of a change that is of interest. -/
def path? (watcher : Watcher) (change : FileChange) : Option Bytes :=
  if change.matters && watcher.accepts (Path.clean change.path) then some (Path.clean change.path)
  else none

/-- Hands on what is pending and gives up the clock. -/
def flush (state : WatchState) (finished : Option WatchEnd) : WatchStep :=
  ⟨.start, state.batch, finished, .none⟩

/-- Reacts to an input. -/
def step (watcher : Watcher) (state : WatchState) : WatchInput → WatchStep
  | .change change =>
    match watcher.path? change with
    | none => ⟨state, none, none, .none⟩
    | some path =>
      ⟨state.add path, none, none, watcher.record .debug "change detected"
        [.path path, .op (Bytes.join "|" (change.kinds.map ChangeKind.name))]⟩
  | .expired => ⟨{ state with clock := state.clock.map Clock.strike }, none, none, .none⟩
  | .quiet =>
    if state.clock = some .struck then flush state none else ⟨state, none, none, .none⟩
  | .trouble reason => ⟨state, none, none, watcher.record .warn "watch error" [.error reason]⟩
  | .closed => flush state (some .closed)
  | .done => flush state (some .calledOff)

/-- Reacts to inputs until the watch ends: the state, the batches in order, and the end if it was
reached. -/
def run (watcher : Watcher) :
    WatchState → List WatchInput → WatchState × List (List Bytes) × Option WatchEnd
  | state, [] => (state, [], none)
  | state, input :: inputs =>
    let step := watcher.step state input
    match step.finished with
    | some finished => (step.state, step.batch.toList, some finished)
    | none =>
      let (state, batches, finished) := run watcher step.state inputs
      (state, step.batch.toList ++ batches, finished)

end Watcher

end Patchbay
