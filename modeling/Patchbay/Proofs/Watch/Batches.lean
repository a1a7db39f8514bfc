import Mathlib.Data.List.DropRight
import Patchbay.Proofs.Bytes
import Patchbay.Watch.Basic

/-! Watches: whatever order changes, the strikes of the clock, troubles and the end come in, no
change is lost and none is made up. A watch is followed turn by turn, with what it handed on at
each. -/

namespace Patchbay

/-- An input that can come in a state: the clock only runs out while it is running, and only one
that has run out leaves a note to take. -/
def WatchInput.Possible (state : WatchState) : WatchInput → Prop
  | .expired => state.clock = some .running
  | .quiet => state.clock = some .struck
  | _ => True

/-- How an input ends a watch, if it does. -/
def WatchInput.ending : WatchInput → Option WatchEnd
  | .done => some .calledOff
  | .closed => some .closed
  | _ => none

/-- A turn of a watch: what it reacted to, and the paths that it handed on then, if any. -/
structure WatchTurn where
  input : WatchInput
  batch : Option (List Bytes)

/-- The turns behind the last one that handed paths on. -/
def sinceBatch (log : List WatchTurn) : List WatchTurn :=
  log.rtakeWhile fun turn => turn.batch.isNone

namespace Watcher

/-- An input reports a path of interest: a file was created, written or renamed, its path is this
one once it is cleaned, and the watcher accepts it. -/
def Reports (watcher : Watcher) (input : WatchInput) (path : Bytes) : Prop :=
  ∃ change, input = .change change ∧
    (.create ∈ change.kinds ∨ .write ∈ change.kinds ∨ .rename ∈ change.kinds) ∧
    Path.clean change.path = path ∧ watcher.accepts path = true

/-- A watch from its start on: the turns that it took, the state that it came to, and its end if it
has ended. It takes turns in any order, as long as each input can come when it comes, and none
behind its end. -/
inductive Watches (watcher : Watcher) : List WatchTurn → WatchState → Option WatchEnd → Prop where
  | start : watcher.Watches [] .start none
  | turn {log : List WatchTurn} {state : WatchState} (going : watcher.Watches log state none)
      (input : WatchInput) (possible : input.Possible state) :
      watcher.Watches (log ++ [⟨input, (watcher.step state input).batch⟩])
        (watcher.step state input).state (watcher.step state input).finished

end Watcher

section Turns

/-- The last turn of a log is the one that is split off, or it stands behind that. -/
theorem concat_eq_split {α : Type} {log before after : List α} {last turn : α}
    (split : log ++ [last] = before ++ turn :: after) :
    (after = [] ∧ log = before ∧ last = turn) ∨
      ∃ between, after = between ++ [last] ∧ log = before ++ turn :: between := by
  -- What comes behind the turn is empty or ends with the last one.
  rcases List.eq_nil_or_concat after with rfl | ⟨between, final, rfl⟩
  · obtain ⟨same, one⟩ := List.append_inj' split rfl
    exact .inl ⟨rfl, same, List.singleton_inj.mp one⟩
  · -- The lists end with the same turn, and agree in front of it.
    rw [List.concat_eq_append, ← List.cons_append, ← List.append_assoc] at split
    obtain ⟨same, one⟩ := List.append_inj' split rfl
    rw [List.concat_eq_append, List.singleton_inj.mp one]
    exact .inr ⟨between, rfl, same⟩

/-- A turn that hands nothing on is counted with those since the last batch. -/
theorem sinceBatch_quiet (log : List WatchTurn) (input : WatchInput) :
    sinceBatch (log ++ [⟨input, none⟩]) = sinceBatch log ++ [⟨input, none⟩] :=
  -- The turn goes on with what was taken from the end.
  List.rtakeWhile_concat_pos _ _ _ rfl

/-- Right behind a batch there are no turns. -/
theorem sinceBatch_batch (log : List WatchTurn) (input : WatchInput) (batch : List Bytes) :
    sinceBatch (log ++ [⟨input, some batch⟩]) = [] :=
  -- The turn at the end stops the count.
  List.rtakeWhile_concat_neg _ _ _ Bool.false_ne_true

end Turns

namespace WatchState

variable {state : WatchState} {path other : Bytes}

/-- Whatever the clock was before, a path that is added leaves it running. -/
theorem clock_add (state : WatchState) (path : Bytes) :
    (state.add path).clock = some .running := by
  -- A clock that was running is stopped, and the note of one that has run out is taken before it is
  -- set.
  obtain ⟨pending, clock⟩ := state
  cases clock with
  | none => rfl
  | some clock => cases clock <;> rfl

/-- A clock that strikes stays armed. -/
theorem armed_strike (pending : List Bytes) (clock : Option Clock) :
    armed ⟨pending, clock.map Clock.strike⟩ = armed ⟨pending, clock⟩ := by
  -- Only a running clock strikes, and then its note is there.
  cases clock with
  | none => rfl
  | some clock => cases clock <;> rfl

/-- A path that is added is pending beside those from before. -/
theorem mem_add_pending :
    other ∈ (state.add path).pending ↔ other ∈ state.pending ∨ other = path := by
  unfold add
  dsimp only
  split
  · -- The path was pending already.
    rename_i known
    have here : path ∈ state.pending := List.contains_iff_mem.mp known
    constructor
    · exact .inl
    · rintro (before | rfl)
      · exact before
      · exact here
  · simp

/-- No path is pending twice. -/
theorem nodup_add_pending (distinct : state.pending.Nodup) : (state.add path).pending.Nodup := by
  -- A path is added only if it is not there.
  unfold add
  dsimp only
  split
  · exact distinct
  · rename_i unknown
    have apart : path ∉ state.pending := fun member => unknown (List.contains_iff_mem.mpr member)
    rw [List.nodup_append_comm]
    exact List.nodup_cons.mpr ⟨apart, distinct⟩

/-- There is no batch exactly when nothing is pending. -/
theorem batch_eq_none_iff : state.batch = none ↔ state.pending = [] := by
  -- The pending paths are looked at to tell.
  unfold batch
  split
  · rename_i empty
    simpa using empty
  · rename_i some
    simpa using some

/-- A batch is what is pending, in order. -/
theorem batch_eq_some {batch : List Bytes} (given : state.batch = some batch) :
    state.pending ≠ [] ∧ batch = state.pending.mergeSort Bytes.notAfter := by
  -- Without pending paths there is no batch.
  unfold WatchState.batch at given
  split at given
  · cases given
  · rename_i pending
    exact ⟨by simpa using pending, (Option.some.inj given).symm⟩

end WatchState

namespace Watcher

variable {watcher : Watcher} {log : List WatchTurn} {state : WatchState}
  {finished : Option WatchEnd}

/-- A change matters when a file was created, written or renamed. -/
theorem matters_iff {change : FileChange} : change.matters = true ↔
    .create ∈ change.kinds ∨ .write ∈ change.kinds ∨ .rename ∈ change.kinds := by
  -- One of its kinds is one of the three.
  simp only [FileChange.matters, List.any_eq_true, Bool.or_eq_true, beq_iff_eq]
  grind

/-- A change reports exactly the path that a watcher takes from it. -/
theorem reports_change_iff {change : FileChange} {path : Bytes} :
    watcher.Reports (.change change) path ↔ watcher.path? change = some path := by
  -- Both ask the same of the cleaned path.
  have taken : watcher.path? change = some path ↔
      (change.matters = true ∧ watcher.accepts (Path.clean change.path) = true) ∧
        Path.clean change.path = path := by
    rw [path?, Option.ite_none_right_eq_some, Bool.and_eq_true, Option.some.injEq]
  rw [taken, matters_iff]
  constructor
  · rintro ⟨_, same, matters, rfl, accepted⟩
    cases same
    exact ⟨⟨matters, accepted⟩, rfl⟩
  · rintro ⟨⟨matters, accepted⟩, rfl⟩
    exact ⟨change, rfl, matters, rfl, accepted⟩

/-- Only changes report a path. -/
theorem not_reports (watcher : Watcher) {input : WatchInput}
    (other : ∀ change, input ≠ .change change) (path : Bytes) : ¬ watcher.Reports input path := by
  -- A report comes with the change that it is about.
  rintro ⟨change, same, _⟩
  exact other change same

/-- What a watcher can do in a turn: take in a path that is reported, go on with what is pending, or
hand it on. -/
theorem step_cases (watcher : Watcher) (state : WatchState) (input : WatchInput) :
    (∃ path trace, watcher.step state input = ⟨state.add path, none, none, trace⟩ ∧
        ∀ other, watcher.Reports input other ↔ other = path) ∨
      (∃ later trace, watcher.step state input = ⟨later, none, none, trace⟩ ∧
        later.pending = state.pending ∧ later.armed = state.armed ∧
        ∀ path, ¬ watcher.Reports input path) ∨
      ∃ finished, watcher.step state input = flush state finished ∧
        ∀ path, ¬ watcher.Reports input path := by
  cases input with
  | change change =>
    -- The change is of interest or not.
    unfold step
    dsimp only
    cases found : watcher.path? change with
    | none =>
      refine .inr (.inl ⟨state, _, rfl, rfl, rfl, fun path reported => ?_⟩)
      rw [reports_change_iff, found] at reported
      cases reported
    | some path =>
      refine .inl ⟨path, _, rfl, fun other => ?_⟩
      rw [reports_change_iff, found, Option.some.injEq, eq_comm]
  | expired =>
    exact .inr (.inl ⟨_, _, rfl, rfl, WatchState.armed_strike _ _, watcher.not_reports (by simp)⟩)
  | quiet =>
    have silent : ∀ path, ¬ watcher.Reports .quiet path := watcher.not_reports (by simp)
    -- Without a note there is nothing to take.
    by_cases struck : state.clock = some .struck
    · exact .inr (.inr ⟨none, by simp [step, struck], silent⟩)
    · exact .inr (.inl ⟨state, .none, by simp [step, struck], rfl, rfl, silent⟩)
  | trouble reason =>
    exact .inr (.inl ⟨state, _, rfl, rfl, rfl, watcher.not_reports (by simp)⟩)
  | closed => exact .inr (.inr ⟨some .closed, rfl, watcher.not_reports (by simp)⟩)
  | done => exact .inr (.inr ⟨some .calledOff, rfl, watcher.not_reports (by simp)⟩)

/-- What a watch keeps from turn to turn: no path is pending twice, the clock is armed exactly while
something is pending, and what is pending are the paths that were reported since the last batch. -/
structure Keeps (watcher : Watcher) (log : List WatchTurn) (state : WatchState) : Prop where
  distinct : state.pending.Nodup
  armed : state.armed = true ↔ state.pending ≠ []
  pending : ∀ path,
    path ∈ state.pending ↔ ∃ turn ∈ sinceBatch log, watcher.Reports turn.input path

/-- A turn keeps what a watch keeps. -/
theorem Keeps.step (keeps : watcher.Keeps log state) (input : WatchInput) :
    watcher.Keeps (log ++ [⟨input, (watcher.step state input).batch⟩])
      (watcher.step state input).state := by
  rcases watcher.step_cases state input with
    ⟨path, _, taken, reported⟩ | ⟨later, _, same, stay, clock, silent⟩ | ⟨finished, flushed, silent⟩
  · -- A path is taken in: it is the one that the last turn reports.
    rw [taken]
    refine ⟨WatchState.nodup_add_pending keeps.distinct, ?_, fun other => ?_⟩
    · refine iff_of_true (by rw [WatchState.armed, WatchState.clock_add]; rfl) fun empty => ?_
      have here : path ∈ (state.add path).pending := WatchState.mem_add_pending.mpr (.inr rfl)
      rw [empty] at here
      cases here
    · rw [WatchState.mem_add_pending, keeps.pending, sinceBatch_quiet]
      simp only [List.mem_append, List.mem_singleton, or_and_right, exists_or, exists_eq_left,
        reported]
  · -- What is pending stays, and the last turn reports nothing.
    rw [same]
    refine ⟨stay ▸ keeps.distinct, by rw [clock, stay]; exact keeps.armed, fun path => ?_⟩
    rw [stay, keeps.pending, sinceBatch_quiet]
    simp only [List.mem_append, List.mem_singleton, or_and_right, exists_or, exists_eq_left, silent,
      or_false]
  · -- All is handed on, so that nothing is pending.
    rw [flushed]
    refine ⟨List.nodup_nil, by simp [flush, WatchState.start, WatchState.armed],
      fun path => iff_of_false List.not_mem_nil ?_⟩
    rintro ⟨turn, member, reports⟩
    cases given : state.batch with
    | some batch =>
      simp only [flush, given, sinceBatch_batch] at member
      cases member
    | none =>
      -- There was nothing to hand on, because nothing had been reported.
      simp only [flush, given, sinceBatch_quiet, List.mem_append, List.mem_singleton] at member
      rcases member with earlier | rfl
      · have here : path ∈ state.pending := (keeps.pending path).mpr ⟨turn, earlier, reports⟩
        rw [WatchState.batch_eq_none_iff.mp given] at here
        cases here
      · exact silent path reports

/-- A watch keeps it all the way. -/
theorem Watches.keeps (watched : watcher.Watches log state finished) : watcher.Keeps log state := by
  -- At the start nothing is pending and there is no clock.
  induction watched with
  | start =>
    exact ⟨List.nodup_nil, by simp [WatchState.start, WatchState.armed],
      by simp [WatchState.start, sinceBatch]⟩
  | turn going input possible ih => exact ih.step input

/-- A batch that is handed on behind some turns: it is not empty, it ascends, and it holds exactly
the paths that these reported since the batch before. -/
structure Hands (watcher : Watcher) (before : List WatchTurn) (batch : List Bytes) : Prop where
  nonempty : batch ≠ []
  ascending : batch.Pairwise fun a b => a < b
  exact : ∀ path, path ∈ batch ↔ ∃ turn ∈ sinceBatch before, watcher.Reports turn.input path

/-- What a watch hands on in a turn. -/
theorem Keeps.hands (keeps : watcher.Keeps log state) {input : WatchInput} {batch : List Bytes}
    (given : (watcher.step state input).batch = some batch) : watcher.Hands log batch := by
  -- Only handing on gives a batch.
  rcases watcher.step_cases state input with
    ⟨path, _, taken, _⟩ | ⟨_, _, same, _⟩ | ⟨finished, flushed, _⟩
  · rw [taken] at given
    cases given
  · rw [same] at given
    cases given
  · -- The batch is what is pending, and sorting it loses nothing.
    rw [flushed] at given
    obtain ⟨pending, rfl⟩ := WatchState.batch_eq_some given
    refine ⟨?_, Bytes.sort_by_ascends id (by rw [List.map_id]; exact keeps.distinct),
      fun path => ?_⟩
    · intro empty
      have length := (List.mergeSort_perm state.pending Bytes.notAfter).length_eq
      rw [empty] at length
      exact pending (List.length_eq_zero_iff.mp length.symm)
    · rw [List.mem_mergeSort, keeps.pending]

/-- Every batch of a watch is one that its turns before account for. -/
theorem Watches.hands (watched : watcher.Watches log state finished)
    {before after : List WatchTurn} {turn : WatchTurn} {batch : List Bytes}
    (split : log = before ++ turn :: after) (given : turn.batch = some batch) :
    watcher.Hands before batch := by
  -- The log grows at its end, and the turn stands there or further in front.
  induction watched generalizing after with
  | start => cases before <;> cases split
  | turn going input possible ih =>
    rcases concat_eq_split split with ⟨_, rfl, rfl⟩ | ⟨between, _, earlier⟩
    · exact going.keeps.hands given
    · exact ih earlier

/-- What a turn reports is handed on with the first batch behind it, or is pending while there is
none. -/
theorem Watches.delivered_or_pending (watched : watcher.Watches log state finished)
    {before after : List WatchTurn} {turn : WatchTurn} {path : Bytes}
    (split : log = before ++ turn :: after) (reports : watcher.Reports turn.input path) :
    (∃ batch, after.findSome? WatchTurn.batch = some batch ∧ path ∈ batch) ∨
      (after.findSome? WatchTurn.batch = none ∧ path ∈ state.pending) := by
  -- The log grows at its end, and the turn stands there or further in front.
  induction watched generalizing after with
  | start => cases before <;> cases split
  | @turn log state going input possible ih =>
    have cases := watcher.step_cases state input
    rcases concat_eq_split split with ⟨rfl, rfl, rfl⟩ | ⟨between, rfl, earlier⟩
    · -- The last turn takes the path in.
      rcases cases with ⟨other, _, taken, reported⟩ | ⟨_, _, _, _, _, silent⟩ | ⟨_, _, silent⟩
      · refine .inr ⟨rfl, ?_⟩
        rw [taken]
        exact WatchState.mem_add_pending.mpr (.inr ((reported path).mp reports))
      · exact absurd reports (silent path)
      · exact absurd reports (silent path)
    · rw [List.findSome?_append]
      rcases ih earlier with ⟨batch, found, member⟩ | ⟨none, pending⟩
      · exact .inl ⟨batch, by rw [found]; rfl, member⟩
      · -- The path has been pending, and stays so unless it is handed on now.
        rw [none]
        rcases cases with
          ⟨other, _, taken, _⟩ | ⟨later, _, same, stay, _⟩ | ⟨finished, flushed, _⟩
        · rw [taken]
          exact .inr ⟨rfl, WatchState.mem_add_pending.mpr (.inl pending)⟩
        · rw [same]
          exact .inr ⟨rfl, stay ▸ pending⟩
        · cases given : state.batch with
          | none =>
            rw [WatchState.batch_eq_none_iff.mp given] at pending
            cases pending
          | some batch =>
            refine .inl ⟨batch, by simp [flushed, flush, given], ?_⟩
            rw [(WatchState.batch_eq_some given).2]
            exact List.mem_mergeSort.mpr pending

/-- A watch ends with nothing pending. -/
theorem Watches.pending_eq_nil (watched : watcher.Watches log state finished)
    (ended : finished.isSome = true) : state.pending = [] := by
  -- Only a turn that hands all on can be the last.
  cases watched with
  | start => cases ended
  | @turn log state going input possible =>
    rcases watcher.step_cases state input with
      ⟨path, _, taken, _⟩ | ⟨_, _, same, _⟩ | ⟨finished, flushed, _⟩
    · rw [taken] at ended
      cases ended
    · rw [same] at ended
      cases ended
    · rw [flushed]
      rfl

/-- A watch ends when it is called off and when there are no more reports, and only then. -/
theorem Watches.finished_eq (watched : watcher.Watches log state finished) :
    finished = log.getLast?.bind fun turn => turn.input.ending := by
  -- No turn comes behind the end, so that the last one tells.
  cases watched with
  | start => rfl
  | @turn log state going input possible =>
    rw [List.getLast?_concat]
    cases input with
    | change change =>
      simp only [Watcher.step]
      split <;> rfl
    | expired => rfl
    | quiet =>
      simp only [Watcher.step]
      split <;> rfl
    | trouble reason => rfl
    | closed => rfl
    | done => rfl

/-- One more input is reacted to in the state that those before lead to. -/
theorem run_concat {inputs : List WatchInput} {start state : WatchState}
    {batches : List (List Bytes)} (ran : watcher.run start inputs = (state, batches, none))
    (input : WatchInput) :
    watcher.run start (inputs ++ [input]) = ((watcher.step state input).state,
      batches ++ (watcher.step state input).batch.toList, (watcher.step state input).finished) := by
  -- The first input is reacted to first in both.
  induction inputs generalizing start batches with
  | nil =>
    cases ran
    rw [List.nil_append, run]
    dsimp only
    cases (watcher.step state input).finished <;> simp [run]
  | cons first rest ih =>
    rw [run] at ran
    rw [List.cons_append, run]
    dsimp only at ran ⊢
    cases ended : (watcher.step start first).finished with
    | some finished =>
      rw [ended] at ran
      cases ran
    | none =>
      -- The first input did not end the watch, so that the rest goes on from it.
      rw [ended] at ran
      rcases result : watcher.run (watcher.step start first).state rest with ⟨later, more, finished⟩
      rw [result] at ran
      cases ran
      rw [ih result, List.append_assoc]

/-- A watch does what a run over its inputs does. -/
theorem Watches.run_eq (watched : watcher.Watches log state finished) :
    watcher.run .start (log.map WatchTurn.input) =
      (state, log.filterMap WatchTurn.batch, finished) := by
  -- The log grows at its end, as the inputs of the run do.
  induction watched with
  | start => rfl
  | @turn log state going input possible ih =>
    rw [List.map_append, List.map_singleton, run_concat ih, List.filterMap_append]
    cases (watcher.step state input).batch <;> rfl

/-- A watch loses no change and makes none up. At any time, the clock is armed exactly while
something is pending. Every batch that was handed on is not empty, strictly ascends and has nothing
twice, and holds exactly the paths that were reported since the batch before. A watch that was
called off, or that gets no more reports, and only such a one, has ended: then nothing is pending,
and every path that was reported has been handed on with the first batch behind its report. All of
this is what a run over the same inputs does. -/
theorem watch_faithful (watched : watcher.Watches log state finished) :
    (state.armed = true ↔ state.pending ≠ []) ∧
      (∀ before turn after batch, log = before ++ turn :: after → turn.batch = some batch →
        (batch ≠ [] ∧ batch.Pairwise (fun a b => a < b) ∧ batch.Nodup) ∧
          ∀ path,
            path ∈ batch ↔ ∃ earlier ∈ sinceBatch before, watcher.Reports earlier.input path) ∧
      (finished = log.getLast?.bind fun turn => turn.input.ending) ∧
      (finished.isSome = true → state.pending = [] ∧
        ∀ before turn after path, log = before ++ turn :: after → watcher.Reports turn.input path →
          ∃ batch, after.findSome? WatchTurn.batch = some batch ∧ path ∈ batch) ∧
      watcher.run .start (log.map WatchTurn.input) =
        (state, log.filterMap WatchTurn.batch, finished) := by
  refine ⟨watched.keeps.armed, ?_, watched.finished_eq, ?_, watched.run_eq⟩
  · intro before turn after batch split given
    have hands := watched.hands split given
    -- What strictly ascends has nothing twice.
    exact ⟨⟨hands.nonempty, hands.ascending, hands.ascending.imp Std.ne_of_lt⟩, hands.exact⟩
  · intro ended
    have empty := watched.pending_eq_nil ended
    refine ⟨empty, ?_⟩
    intro before turn after path split reports
    rcases watched.delivered_or_pending split reports with delivered | ⟨_, pending⟩
    · exact delivered
    · -- Nothing is pending any more.
      rw [empty] at pending
      cases pending

/-- A watcher that takes an interest in files of one kind. -/
def patches : Watcher := ⟨utf8 "patches", fun path => Bytes.endsWith path (utf8 ".yaml")⟩

/-- A report that a file among the patches was changed in some way. -/
def patched (name : String) (kind : ChangeKind) : WatchInput :=
  .change ⟨utf8 "patches//" ++ utf8 name, [kind]⟩

/-- A watch of the patches: one file is written again when the clock has run out and before the note
is taken, so that the wait starts anew; one is of no interest, there is a trouble, and a last change
comes right before the watch is called off. -/
def patchInputs : List WatchInput :=
  [patched "low.yaml" .create, patched "notes.txt" .write, .trouble (utf8 "overflow"), .expired,
    patched "low.yaml" .write, .expired, .quiet, patched "high.yaml" .rename,
    patched "low.yaml" .remove, .done]

/-- The patches are watched to the end, and both of the changed files are handed on in time. -/
theorem patches_watched : ∃ log state,
    patches.Watches log state (some .calledOff) ∧ log.map WatchTurn.input = patchInputs ∧
      log.filterMap WatchTurn.batch = [[utf8 "patches/low.yaml"], [utf8 "patches/high.yaml"]] ∧
      state.pending = [] ∧
      ∀ before turn after path, log = before ++ turn :: after → patches.Reports turn.input path →
        ∃ batch, after.findSome? WatchTurn.batch = some batch ∧ path ∈ batch := by
  have created : patches.Watches _ _ none := Watches.start.turn (patched "low.yaml" .create) trivial
  have noted := created.turn (patched "notes.txt" .write) trivial
  have troubled := noted.turn (.trouble (utf8 "overflow")) trivial
  have struck := troubled.turn .expired rfl
  have written := struck.turn (patched "low.yaml" .write) trivial
  have again := written.turn .expired rfl
  have taken := again.turn .quiet rfl
  have renamed := taken.turn (patched "high.yaml" .rename) trivial
  have removed := renamed.turn (patched "low.yaml" .remove) trivial
  have ended := removed.turn .done trivial
  obtain ⟨_, _, _, settled, _⟩ := watch_faithful ended
  refine ⟨_, _, ended, rfl, ?_, settled rfl⟩
  -- Each batch is of one path, which there is nothing to sort about.
  show [[utf8 "patches/low.yaml"].mergeSort Bytes.notAfter,
    [utf8 "patches/high.yaml"].mergeSort Bytes.notAfter] = _
  rw [List.mergeSort_singleton, List.mergeSort_singleton]

end Watcher

end Patchbay
