import Patchbay.Proofs.Library.Change
import Patchbay.Proofs.Stream.RoundTrip

/-! Libraries that share a folder, as one map. Whatever calls are made through them, in whatever
format each of them writes, the folder holds one file for every name that was stored and not deleted
since, and each library answers as the map of these names does. The files are assumed to be written
without errors of the disk, and compressors to be ones whose results can be decompressed. -/

namespace Patchbay

/-- A call that opens a library or changes what it stores. -/
inductive LibraryCall where
  | prepare
  | save (definition : Definition)
  | delete (name : Bytes)

namespace LibraryCall

/-- The tree after a call. -/
def perform (library : Library) (tree : FileTree) : LibraryCall → FileTree
  | .prepare => LibraryM.after library.prepare tree
  | .save definition => LibraryM.after (library.save definition .sound) tree
  | .delete name => LibraryM.after (library.delete name) tree

/-- What is stored after a call: a definition that can be stored and written takes the place of what
was stored under its name. -/
def record (library : Library) (shelf : Shelf) : LibraryCall → Shelf
  | .prepare => shelf
  | .save definition =>
    match checkStoredName definition.name, Stream.encode library.strict [definition] with
    | .ok (), .ok data => Function.update shelf definition.name (some (library.stored data))
    | _, _ => shelf
  | .delete name => Function.update shelf name none

variable {library : Library} {shelf : Shelf} {definition : Definition} {name : Bytes}

/-- A definition that can be stored and written is stored. -/
theorem record_save {data : Bytes} (storable : Library.Storable definition.name)
    (encoded : Stream.encode library.strict [definition] = .ok data) :
    record library shelf (.save definition) =
      Function.update shelf definition.name (some (library.stored data)) := by
  -- Both checks pass.
  rw [Library.Storable] at storable
  simp only [record, storable, encoded]

/-- A definition that cannot be stored, or not be written, is not stored. -/
theorem record_refused (refused : ∀ data, Library.Storable definition.name →
    Stream.encode library.strict [definition] ≠ .ok data) :
    record library shelf (.save definition) = shelf := by
  -- One of the two checks fails.
  cases checked : checkStoredName definition.name with
  | error error => simp only [record, checked]
  | ok =>
    cases encoded : Stream.encode library.strict [definition] with
    | error fault => simp only [record, checked, encoded]
    | ok data => exact absurd encoded (refused data checked)

/-- Storing changes nothing under other names. -/
theorem record_save_of_ne (other : name ≠ definition.name) :
    record library shelf (.save definition) name = shelf name := by
  -- The shelf is changed under the name of the definition, or not at all.
  by_cases taken : ∃ data, Library.Storable definition.name ∧
    Stream.encode library.strict [definition] = .ok data
  · obtain ⟨data, storable, encoded⟩ := taken
    rw [record_save storable encoded, Function.update_of_ne other]
  · rw [record_refused fun data storable encoded => taken ⟨data, storable, encoded⟩]

/-- Deleting leaves nothing under the name. -/
theorem record_delete : record library shelf (.delete name) = Function.update shelf name none := rfl

end LibraryCall

/-- The tree after calls. -/
def performed (calls : List (Library × LibraryCall)) (tree : FileTree) : FileTree :=
  calls.foldl (fun tree call => call.2.perform call.1 tree) tree

/-- What is stored after calls, from nothing. -/
def recorded (calls : List (Library × LibraryCall)) : Shelf :=
  calls.foldl (fun shelf call => call.2.record call.1 shelf) fun _ => none

/-- A library whose folder is at a location, and to which the names are short enough that calls
store under. -/
structure Library.Shares (library : Library) (tree : FileTree) (location : Location)
    (calls : List (Library × LibraryCall)) : Prop where
  lies : library.LiesAt tree location
  accepts : ∀ other definition, (other, .save definition) ∈ calls →
    Library.Storable definition.name →
    library.Accepts definition.name

/-- Calls through libraries that share an empty folder. What they store comes from compilations.
Where it is compressed it is not too long for that, and by a compressor whose results can be
decompressed. -/
structure Shared (calls : List (Library × LibraryCall)) (tree : FileTree) (location : Location) :
    Prop where
  empty : tree.children location = []
  libraries : ∀ library call, (library, call) ∈ calls → library.Shares tree location calls
  compiled : ∀ library definition, (library, .save definition) ∈ calls →
    ∃ graph roots rule name, compile graph roots rule name = .ok definition
  restores : ∀ library definition, (library, .save definition) ∈ calls →
    library.compressed = true → Snappy.Restores library.compress
  short : ∀ library definition data, (library, .save definition) ∈ calls →
    library.compressed = true → Stream.encode library.strict [definition] = .ok data →
    data.length < 0x100000000

/-- A library that answers as a shelf does, from a folder that holds the files of the shelf. -/
structure Library.Mirrors (library : Library) (tree : FileTree) (location : Location)
    (shelf : Shelf) : Prop where
  /-- The folder holds one file for every name, and no other. -/
  files : (tree.children location).Pairwise (fun a b => a.1 < b.1) ∧
    ∀ child, child ∈ tree.children location ↔ ∃ name stored, shelf name = some stored ∧
      child = (name ++ Library.ending stored.compressed, .file stored.content)
  /-- Every name is listed once, in order and in its format. -/
  list : ∃ entries, library.list tree = .ok entries ∧
    entries.Pairwise (fun a b => a.name < b.name) ∧
    ∀ entry, entry ∈ entries ↔ ∃ name stored, shelf name = some stored ∧
      entry = library.entry name stored
  read : ∀ name stored, shelf name = some stored → library.read tree name = .ok stored.data
  /-- What is loaded has the name and is written as the same bytes again, as tolerantly or strictly
  as it was. -/
  load : ∀ name stored, shelf name = some stored →
    ∃ definition, library.load tree name = .ok definition ∧
    definition.name = name ∧ Stream.encode false [definition] = .ok stored.data ∧
    Stream.encode stored.strict [definition] = .ok stored.data
  absent : ∀ name, shelf name = none → library.read tree name = .error (Library.absence name) ∧
    library.load tree name = .error (Library.absence name) ∧
    library.delete name tree = .error (Library.absence name) tree
  delete : ∀ name stored, shelf name = some stored →
    ∃ later, library.delete name tree = .ok () later
  save : ∀ definition data, Library.Storable definition.name → library.Accepts definition.name →
    Stream.encode library.strict [definition] = .ok data →
    ∃ later, library.save definition .sound tree =
      .ok (library.pathOf definition.name library.compressed) later
  misnamed : ∀ definition error, checkStoredName definition.name = .error error →
    library.save definition .sound tree = .error (.invalidName definition.name error) tree
  unwritable : ∀ definition fault, Library.Storable definition.name →
    Stream.encode library.strict [definition] = .error fault →
    library.save definition .sound tree = .error (.fault fault) tree
  prepare : library.prepare tree = .ok () tree

namespace LibraryM

variable {α : Type} {operation : LibraryM α} {tree later : FileTree}

/-- An operation that succeeds leaves its tree. -/
theorem after_ok {result : α} (ran : operation tree = .ok result later) :
    after operation tree = later := by
  -- What is left is the tree, whatever the result.
  rw [after, EStateM.run, ran]

/-- An operation that fails leaves its tree. -/
theorem after_error {error : LibraryError} (ran : operation tree = .error error later) :
    after operation tree = later := by
  -- What is left is the tree, also behind a failure.
  rw [after, EStateM.run, ran]

end LibraryM

section Step

variable {library : Library} {tree : FileTree} {location : Location} {shelf : Shelf}
  {call : LibraryCall}

/-- A later tree in which the folder holds another shelf, while all else is as it was. -/
structure Turns (tree later : FileTree) (location : Location) (shelf : Shelf) : Prop where
  holds : later.Holds location shelf
  keeps : tree.Keeps later
  outside : ∀ other, (∀ file, other ≠ location ++ [file]) → later.place? other = tree.place? other

/-- What changes the files of a name turns the folder to the changed shelf. -/
theorem FileTree.Renews.turns {later : FileTree} {name : Bytes} {entry : Option Stored}
    (renews : tree.Renews later location name entry) (holds : tree.Holds location shelf)
    (storable : Library.Storable name) :
    Turns tree later location (Function.update shelf name entry) :=
  -- Each part of the turn is a property of the change.
  ⟨renews.holds holds storable, renews.keeps holds, fun _ apart => renews.outside apart⟩

/-- One call does to the folder what it does to the shelf. -/
theorem perform_turns (lies : library.LiesAt tree location) (holds : tree.Holds location shelf)
    (accepts : ∀ definition, call = .save definition → Library.Storable definition.name →
      library.Accepts definition.name)
    (stocked : ∀ name stored, shelf name = some stored → library.Accepts name) :
    Turns tree (call.perform library tree) location (call.record library shelf) := by
  have idle : Turns tree tree location shelf := ⟨holds, .refl tree, fun _ _ => rfl⟩
  cases call with
  | prepare =>
    rw [LibraryCall.perform, LibraryM.after_ok (Library.prepare_ready lies holds)]
    exact idle
  | save definition =>
    rw [LibraryCall.perform]
    -- Both sides take the definition, or both refuse it.
    by_cases taken : ∃ data, Library.Storable definition.name ∧
      Stream.encode library.strict [definition] = .ok data
    · obtain ⟨data, storable, encoded⟩ := taken
      obtain ⟨later, saved, renews⟩ :=
        Library.save_renews lies holds storable (accepts definition rfl storable) rfl encoded
      rw [LibraryM.after_ok saved, LibraryCall.record_save storable encoded]
      exact renews.turns holds storable
    · have refused : ∀ data, Library.Storable definition.name →
          Stream.encode library.strict [definition] ≠ .ok data :=
        fun data storable encoded => taken ⟨data, storable, encoded⟩
      obtain ⟨error, failed⟩ := Library.save_refused tree .sound refused
      rw [LibraryM.after_error failed, LibraryCall.record_refused refused]
      exact idle
  | delete name =>
    rw [LibraryCall.perform, LibraryCall.record_delete]
    cases found : shelf name with
    | none =>
      -- Taking nothing away from the shelf leaves it as it is.
      rw [LibraryM.after_error (Library.delete_absent lies holds found),
        Function.update_eq_self_iff.mpr found.symm]
      exact idle
    | some stored =>
      have storable := holds.storable name stored found
      obtain ⟨later, deleted, renews⟩ :=
        Library.delete_renews lies holds storable (stocked name stored found) found
      rw [LibraryM.after_ok deleted]
      exact renews.turns holds storable

end Step

section Origin

variable {library : Library} {call : LibraryCall} {calls : List (Library × LibraryCall)}
  {shelf : Shelf} {name : Bytes}
  {stored : Stored}

/-- A stored definition is the written form of one that was given to a library to be stored. -/
structure Stored.ComesFrom (stored : Stored) (name : Bytes) (library : Library)
    (definition : Definition) : Prop where
  named : definition.name = name
  storable : Library.Storable definition.name
  encoded : Stream.encode library.strict [definition] = .ok stored.data
  written : stored = library.stored stored.data

/-- It can be read if the compressor's results can be decompressed and it is not too long. -/
theorem Stored.ComesFrom.readable {definition : Definition}
    (comes : stored.ComesFrom name library definition)
    (restores : library.compressed = true → Snappy.Restores library.compress)
    (short : library.compressed = true → stored.data.length < 0x100000000) : stored.Readable := by
  rw [comes.written]
  unfold Stored.Readable Library.stored Library.written
  -- Only a library that compresses changes the bytes.
  cases packed : library.compressed with
  | false => rfl
  | true => exact restores packed _ (short packed)

/-- What is stored after a call was stored before, or was stored by the call. -/
theorem record_origin (found : call.record library shelf name = some stored) :
    shelf name = some stored ∨ ∃ definition, call = .save definition ∧
    stored.ComesFrom name library definition := by
  -- Only storing puts something under a name, and only under the name of its definition.
  cases call with
  | prepare => exact .inl found
  | save definition =>
    by_cases same : name = definition.name
    · by_cases taken : ∃ data, Library.Storable definition.name ∧
        Stream.encode library.strict [definition] = .ok data
      · obtain ⟨data, storable, encoded⟩ := taken
        rw [LibraryCall.record_save storable encoded, same, Function.update_self,
          Option.some.injEq] at found
        subst found
        exact .inr ⟨definition, rfl, same.symm, storable, encoded, rfl⟩
      · rw [LibraryCall.record_refused fun data storable encoded => taken
          ⟨data, storable, encoded⟩] at found
        exact .inl found
    · rw [LibraryCall.record_save_of_ne same] at found
      exact .inl found
  | delete deleted =>
    rw [LibraryCall.record_delete] at found
    by_cases same : name = deleted
    · subst same
      rw [Function.update_self] at found
      cases found
    · rw [Function.update_of_ne same] at found
      exact .inl found

/-- What is stored after calls was stored by one of them. -/
theorem recorded_origin (found : recorded calls name = some stored) :
    ∃ library definition, (library, .save definition) ∈ calls ∧
      stored.ComesFrom name library definition := by
  induction calls using List.reverseRecOn with
  | nil => cases found
  | append_singleton calls call ih =>
    obtain ⟨library, call⟩ := call
    rw [recorded, List.foldl_append] at found
    -- The last call stored it, or left it as an earlier one had stored it.
    rcases record_origin found with before | ⟨definition, rfl, comes⟩
    · obtain ⟨other, definition, member, comes⟩ := ih before
      exact ⟨other, definition, List.mem_append_left _ member, comes⟩
    · exact ⟨library, definition, List.mem_append_right _ List.mem_cons_self, comes⟩

end Origin

section Run

variable {calls made : List (Library × LibraryCall)} {tree : FileTree} {location : Location}
  {library : Library}

/-- An empty folder holds nothing that is stored. -/
theorem FileTree.holds_nothing (folder : tree.place? location = some .folder)
    (empty : tree.children location = []) :
    tree.Holds location fun _ => none := by
  -- A folder that lists nothing has no place for any file.
  have distinct := FileTree.distinct_of_children_nil empty
  refine ⟨folder, distinct, ?_, fun name stored found => by cases found⟩
  intro file
  have nothing : ∀ place, tree.place? (location ++ [file]) ≠ some place := by
    intro place held
    rw [← FileTree.mem_children_iff distinct, empty] at held
    cases held
  rw [Option.eq_none_iff_forall_ne_some.mpr nothing, Shelf.file?]
  cases Library.parseFileName file <;> rfl

/-- What is stored by some of the calls is stored under a name that is short enough for all who
share the folder. -/
theorem Library.Shares.stocked (shares : library.Shares tree location calls)
    (among : ∀ call ∈ made, call ∈ calls)
    {name : Bytes} {stored : Stored} (found : recorded made name = some stored) :
    library.Accepts name := by
  -- It came from a call among them, which stores only what all accept.
  obtain ⟨other, definition, member, comes⟩ := recorded_origin found
  exact comes.named ▸ shares.accepts other definition (among _ member) comes.storable

/-- Calls do to a shared folder, from the empty one on, what they do to what is stored. -/
theorem performed_turns (shared : Shared calls tree location)
    (folder : tree.place? location = some .folder)
    (among : ∀ call ∈ made, call ∈ calls) :
    Turns tree (performed made tree) location (recorded made) := by
  induction made using List.reverseRecOn with
  | nil => exact ⟨FileTree.holds_nothing folder shared.empty, .refl tree, fun _ _ => rfl⟩
  | append_singleton made call ih =>
    obtain ⟨library, call⟩ := call
    have earlier : ∀ call ∈ made, call ∈ calls :=
      fun call member => among call (List.mem_append_left _ member)
    have last : (library, call) ∈ calls := among _ (List.mem_append_right _ List.mem_cons_self)
    -- The last call finds the folder as the calls before it left it, and the library is still
    -- there.
    have before := ih earlier
    have shares := shared.libraries library call last
    have turns := perform_turns (shares.lies.stays before.keeps) before.holds
      (fun definition same => shares.accepts library definition (same ▸ last))
      (fun name stored => shares.stocked earlier)
    rw [performed, recorded, List.foldl_append, List.foldl_append]
    exact ⟨turns.holds, before.keeps.trans turns.keeps, fun other apart =>
      (turns.outside other apart).trans (before.outside other apart)⟩

/-- A stored definition is loaded as one that has its name and is written as the bytes that are
stored. -/
theorem Library.load_stored {name : Bytes} {stored : Stored} {definition : Definition}
    (fetched : library.fetch tree name = .ok (stored.data, library.pathOf name stored.compressed))
    (covered : definition.Covered) (named : definition.name = name)
    (encoded : Stream.encode stored.strict [definition] = .ok stored.data) :
    ∃ loaded, library.load tree name = .ok loaded ∧ loaded.name = name ∧
      Stream.encode false [loaded] = .ok stored.data ∧
      Stream.encode stored.strict [loaded] = .ok stored.data := by
  -- The file holds this definition only, so that it is the one that is chosen.
  obtain ⟨loaded, decoded, agrees, tolerant, again⟩ := exists_rewritten covered encoded
  have same : loaded.name = name := agrees.name.trans named
  refine ⟨loaded, ?_, same, tolerant, again⟩
  rw [load, fetched]
  show ((Stream.decode library.strict stored.data).mapError LibraryError.fault >>=
    choose (library.pathOf name stored.compressed) name) = _
  rw [decoded]
  show choose _ name [loaded] = _
  simp [choose, same]

/-- Libraries that share a folder are one map from names to definitions. After any part of the calls
that are made through them, in either format, the folder has one file for each name that was stored
and not deleted since, and every library lists these names, reads the bytes that were stored last,
loads what is written as these bytes, and finds no other name. What it refuses changes nothing, and
nothing outside the folder ever changes. -/
theorem performed_mirrors (shared : Shared calls tree location)
    (shares : library.Shares tree location calls) (happened : made <+: calls) :
    library.Mirrors (performed made tree) location (recorded made) ∧
      ∀ other, (∀ file, other ≠ location ++ [file]) →
        (performed made tree).place? other = tree.place? other := by
  have among : ∀ call ∈ made, call ∈ calls := fun call member => happened.subset member
  obtain ⟨-, folder⟩ := FileTree.find_eq_ok_iff.mp shares.lies.found
  have turns := performed_turns shared folder among
  have lies := shares.lies.stays turns.keeps
  have holds := turns.holds
  -- What is stored is fetched as it was written, whoever wrote it.
  have fetched : ∀ name stored, recorded made name = some stored →
      library.fetch (performed made tree) name =
        .ok (stored.data, library.pathOf name stored.compressed) := by
    intro name stored found
    obtain ⟨writer, definition, member, comes⟩ := recorded_origin found
    refine Library.fetch_stored lies holds found (shares.stocked among found) (comes.readable ?_ ?_)
    · exact shared.restores writer definition (among _ member)
    · intro packed
      exact shared.short writer definition stored.data (among _ member) packed comes.encoded
  refine ⟨⟨⟨FileTree.children_ascends holds.distinct, fun child => holds.mem_children⟩,
    Library.list_stored lies holds fun name stored => shares.stocked among, ?_, ?_, ?_, ?_, ?_, ?_,
    ?_, Library.prepare_ready lies holds⟩, turns.outside⟩
  · intro name stored found
    rw [Library.read, fetched name stored found]
    rfl
  · -- A compiled definition has nothing that reading would drop.
    intro name stored found
    obtain ⟨writer, definition, member, comes⟩ := recorded_origin found
    obtain ⟨graph, roots, rule, given, compiled⟩ :=
      shared.compiled writer definition (among _ member)
    have encoded : Stream.encode stored.strict [definition] = .ok stored.data := by
      rw [comes.written]
      exact comes.encoded
    exact Library.load_stored (fetched name stored found) (Definition.covered_of_compile compiled)
      comes.named encoded
  · intro name absent
    exact ⟨Library.read_absent lies holds absent, Library.load_absent lies holds absent,
      Library.delete_absent lies holds absent⟩
  · intro name stored found
    obtain ⟨later, deleted, -⟩ :=
      Library.delete_renews lies holds (holds.storable name stored found)
        (shares.stocked among found) found
    exact ⟨later, deleted⟩
  · intro definition data storable accepts encoded
    obtain ⟨later, saved, -⟩ := Library.save_renews lies holds storable accepts rfl encoded
    exact ⟨later, saved⟩
  · intro definition error misnamed
    exact Library.save_misnamed .sound misnamed
  · intro definition fault storable unwritable
    exact Library.save_unwritable .sound storable unwritable

end Run

section Studio

/-- The definition of nothing at all. -/
def silence : Definition := defined ⟨#[], #[]⟩ [] .value (utf8 "silence") []

/-- Nothing is reached from no roots. -/
theorem silence_reached : reached ⟨#[], #[]⟩ [] = [] := by cbv

/-- No roots compile to the definition of nothing. -/
theorem silence_compiled : compile ⟨#[], #[]⟩ [] .value (utf8 "silence") = .ok silence := by
  -- There is nothing to arrange and no node to check.
  have sequenced : sequence ⟨#[], #[]⟩ [] = .ok [] := by cbv
  have arranged : arrange ⟨#[], #[]⟩ [] .value (utf8 "silence") = .ok silence := by
    rw [arrange_eq, silence_reached, sequenced]
    rfl
  refine compile_eq_ok_iff.mpr ⟨arranged, (arrange_arranged arranged).check_iff.mpr ?_⟩
  intro n reaches
  rw [← mem_reached_iff, silence_reached] at reaches
  cases reaches

/-- The tables of the definition of nothing are empty. -/
theorem silence_tables : silence.controls = [] ∧ silence.constants = [] ∧ silence.nodes = [] := by
  -- All three tables list what was reached.
  refine ⟨?_, ?_, ?_⟩ <;> simp only [silence, defined, silence_reached] <;> rfl

/-- The definition of nothing can be written in both modes. -/
theorem silence_encoded (strict : Bool) :
    Stream.encode strict [silence] = .ok (Stream.fileBytes [silence.raw]) := by
  -- Tables without rows meet every limit.
  obtain ⟨controls, constants, nodes⟩ := silence_tables
  have writable : silence.Writable strict := by
    refine ⟨by decide, ?_, ?_, ?_, (compile_eq_ok_iff.mp silence_compiled).2, ?_, ?_, ?_⟩ <;>
      simp [controls, constants, nodes]
  refine Stream.encode_eq_ok_iff.mpr ⟨by decide, ?_, rfl⟩
  intro definition member
  exact List.mem_singleton.mp member ▸ writable

/-- The definition of nothing is written in a few bytes. -/
theorem silence_short : (Stream.fileBytes [silence.raw]).length < 0x100000000 := by
  -- With empty tables the bytes are few enough to count.
  obtain ⟨controls, constants, nodes⟩ := silence_tables
  have raw : silence.raw = ⟨utf8 "silence", #[], 0, #[], #[], #[]⟩ := by
    rw [Definition.raw, controls, constants, nodes]
    rfl
  rw [raw]
  decide

/-- A tree with an empty folder. -/
def studio : FileTree := ⟨[], [([utf8 "lib"], .folder)]⟩

/-- A library in the folder that writes plain files. -/
def plainLibrary : Library := ⟨utf8 "lib", false, Snappy.compress, false, utf8 "1"⟩

/-- A library in the same folder, by another path, that writes compressed files. -/
def packedLibrary : Library := ⟨utf8 "./lib/", true, Snappy.compress, true, utf8 "2"⟩

/-- Calls through both libraries: a definition is stored twice, and another one is stored and
deleted. -/
def studioCalls : List (Library × LibraryCall) :=
  [(plainLibrary, .save silence), (packedLibrary, .prepare), (packedLibrary, .save silence),
    (plainLibrary, .save diamondDefinition), (packedLibrary, .delete (utf8 "diamond")),
    (plainLibrary, .delete (utf8 ".hidden"))]

/-- Both libraries lie in the folder. -/
theorem studio_lies : plainLibrary.LiesAt studio [utf8 "lib"] ∧
    packedLibrary.LiesAt studio [utf8 "lib"] :=
  -- The paths and their lengths are those of two concrete libraries.
  ⟨⟨rfl, by decide, by decide, by decide, by decide⟩,
    ⟨rfl, by decide, by decide, by decide, by decide⟩⟩

/-- What is stored through the libraries. -/
theorem studio_saves {library : Library} {definition : Definition}
    (member : (library, .save definition) ∈ studioCalls) :
    (library = plainLibrary ∨ library = packedLibrary) ∧ definition = silence ∨
      library = plainLibrary ∧ definition = diamondDefinition := by
  -- Three of the calls store something.
  simp only [studioCalls, List.mem_cons, Prod.mk.injEq, LibraryCall.save.injEq, reduceCtorEq,
    and_false, false_or, List.not_mem_nil, or_false] at member
  rcases member with ⟨plain, same⟩ | ⟨packed, same⟩ | ⟨plain, same⟩
  · exact .inl ⟨.inl plain, same⟩
  · exact .inl ⟨.inr packed, same⟩
  · exact .inr ⟨plain, same⟩

/-- Both libraries share the folder. -/
theorem studio_shares {library : Library}
    (either : library = plainLibrary ∨ library = packedLibrary) :
    library.Shares studio [utf8 "lib"] studioCalls := by
  -- Only two names are stored, and both are short.
  refine ⟨?_, ?_⟩
  · rcases either with rfl | rfl
    · exact studio_lies.1
    · exact studio_lies.2
  · intro other definition member _
    have named : definition.name = utf8 "silence" ∨ definition.name = utf8 "diamond" := by
      rcases studio_saves member with ⟨-, rfl⟩ | ⟨-, rfl⟩
      · exact .inl rfl
      · exact .inr rfl
    rcases named with named | named <;> rcases either with rfl | rfl <;> rw [named] <;> decide

/-- The calls are made on a folder that is empty at first, and store what compilations give. -/
theorem studio_shared : Shared studioCalls studio [utf8 "lib"] := by
  -- The folder is empty, and each call that stores is one of the three.
  refine ⟨?_, ?_, ?_, ?_, ?_⟩
  · rw [FileTree.children_eq]
    exact List.mergeSort_nil
  · have either : ∀ call ∈ studioCalls, call.1 = plainLibrary ∨ call.1 = packedLibrary := by
      simp [studioCalls]
    intro library call member
    exact studio_shares (either _ member)
  · intro library definition member
    rcases studio_saves member with ⟨-, rfl⟩ | ⟨-, rfl⟩
    · exact ⟨_, _, _, _, silence_compiled⟩
    · exact ⟨_, _, _, _, diamond_compiled⟩
  · intro library definition member _
    rcases studio_saves member with ⟨rfl | rfl, -⟩ | ⟨rfl, -⟩ <;> exact Snappy.compress_restores
  · intro library definition data member packed encoded
    rcases studio_saves member with ⟨-, rfl⟩ | ⟨rfl, -⟩
    · rw [silence_encoded, Except.ok.injEq] at encoded
      exact encoded ▸ silence_short
    · cases packed

/-- In the end the twice stored definition is there in the format of the second time, and the other
one is not. -/
theorem studio_mirrors :
    Shared studioCalls studio [utf8 "lib"] ∧ plainLibrary.Shares studio [utf8 "lib"] studioCalls ∧
      recorded studioCalls (utf8 "silence") =
        some (packedLibrary.stored (Stream.fileBytes [silence.raw])) ∧
      recorded studioCalls (utf8 "diamond") = none ∧
      plainLibrary.read (performed studioCalls studio) (utf8 "silence") =
        .ok (Stream.fileBytes [silence.raw]) ∧
      plainLibrary.read (performed studioCalls studio) (utf8 "diamond") =
        .error (.notFound (utf8 "diamond")) := by
  -- The shelf is followed through the calls, and the libraries mirror it.
  have shares := studio_shares (.inl rfl)
  have mirrors := (performed_mirrors studio_shared shares List.prefix_rfl).1
  have kept : recorded studioCalls (utf8 "silence") =
      some (packedLibrary.stored (Stream.fileBytes [silence.raw])) := by
    have storable : Library.Storable silence.name := rfl
    simp only [recorded, studioCalls, List.foldl_cons, List.foldl_nil]
    rw [LibraryCall.record_delete, Function.update_of_ne (by decide), LibraryCall.record_delete,
      Function.update_of_ne (by decide), LibraryCall.record_save_of_ne (by decide),
      LibraryCall.record_save storable (silence_encoded _)]
    exact Function.update_self ..
  have gone : recorded studioCalls (utf8 "diamond") = none := by
    simp only [recorded, studioCalls, List.foldl_cons, List.foldl_nil]
    rw [LibraryCall.record_delete, Function.update_of_ne (by decide), LibraryCall.record_delete,
      Function.update_self]
  exact ⟨studio_shared, shares, kept, gone, mirrors.read _ _ kept, (mirrors.absent _ gone).1⟩

/-- Nothing is stored under a hidden name, yet what is said of it is not that it is not found. -/
theorem hidden_refused :
    Shared [] studio [utf8 "lib"] ∧ plainLibrary.Shares studio [utf8 "lib"] [] ∧
      recorded [] (utf8 ".hidden") = none ∧
      plainLibrary.load (performed [] studio) (utf8 ".hidden") ≠
        .error (.notFound (utf8 ".hidden")) := by
  -- No call was made, and a hidden name is refused before it is looked for.
  refine ⟨⟨studio_shared.empty, ?_, ?_, ?_, ?_⟩, ⟨studio_lies.1, ?_⟩, rfl, ?_⟩
  · intro library call member
    cases member
  · intro library definition member
    cases member
  · intro library definition member
    cases member
  · intro library definition data member
    cases member
  · intro other definition member
    cases member
  · intro found
    have refused : plainLibrary.load (performed [] studio) (utf8 ".hidden") =
        .error (.invalidName (utf8 ".hidden") .hidden) := rfl
    rw [refused] at found
    cases found

end Studio

end Patchbay
