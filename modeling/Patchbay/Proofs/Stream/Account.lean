import Patchbay.Proofs.Stream.Modes

/-! The account of a file. Every entry of its name tables becomes the name of a control or is told
of when it is dropped, and every parameter becomes a control or is told of. Only an empty name may
go without a word: it leaves a control without a name as it is. -/

namespace Patchbay.Stream

section Names

variable (owners : Owners) (entries : List NameEntry) (entry : NameEntry)

/-- An entry that names nothing: its name is empty, and its parameter is owned and has no name from
the entries in front of it. -/
def NamesNothing (front : List NameEntry) : Prop :=
  entry.name = [] ∧ Owned owners entry.index ∧ nameAt front entry.index = []
  deriving Decidable

/-- The entries that name nothing. -/
def blankEntries : List NameEntry :=
  -- Each entry is looked at with the entries that stand in front of it.
  (entries.zipIdx.filter fun item => NamesNothing owners item.1 (entries.take item.2)).map Prod.fst

/-- One more entry belongs to them when it names nothing behind the others. -/
theorem blankEntries_concat : blankEntries owners (entries ++ [entry]) =
    blankEntries owners entries ++ if NamesNothing owners entry entries then [entry] else [] := by
  -- In front of an earlier entry stand the same entries as without the last one.
  have earlier : entries.zipIdx.filter
      (fun item => NamesNothing owners item.1 ((entries ++ [entry]).take item.2)) =
        entries.zipIdx.filter fun item => NamesNothing owners item.1 (entries.take item.2) := by
    refine List.filter_congr fun item member => ?_
    have bound : item.2 < entries.length := by simpa using List.snd_lt_add_of_mem_zipIdx member
    rw [List.take_append_of_le_length (Nat.le_of_lt bound)]
  simp only [blankEntries, List.zipIdx_append, List.filter_append, List.map_append, earlier]
  by_cases blank : NamesNothing owners entry entries
  · simp [blank]
  · simp [blank]

/-- Every entry gives a parameter its label, or is told of, or names nothing. -/
theorem labelAll_account : entries.length =
    (labelAll owners entries).1.toList.countP (fun text => text ≠ []) +
    (labelAll owners entries).2.length +
      (blankEntries owners entries).length := by
  -- The entries are labelled from the first to the last, so that the last one is taken off.
  induction entries using List.reverseRecOn with
  | nil => simp [labelAll, blankEntries, List.countP_replicate]
  | append_singleton entries entry ih =>
    rw [labelAll_concat, blankEntries_concat, List.length_append, List.length_append,
      List.length_append, ih, List.length_singleton]
    have label := labelAll_get owners entries entry.index
    rcases label_cases owners (labelAll owners entries).1 entry with
      ⟨owned, empty, set⟩ | ⟨refused, _, kept⟩
    · -- The parameter has no label yet, and the entry gives it one unless its own name is empty.
      have inside : entry.index < (labelAll owners entries).1.toList.length := by
        simpa [labelAll_size] using owned.lt_size
      have free : nameAt entries entry.index = [] := by rwa [label, if_pos owned] at empty
      have blank : (labelAll owners entries).1.toList[entry.index] = [] := by
        rwa [← Array.getElem?_toList, List.getElem?_eq_getElem inside, Option.getD_some] at empty
      rw [set, Array.toList_setIfInBounds, List.countP_set inside, blank]
      by_cases named : entry.name = []
      · simp [NamesNothing, named, owned, free]
        omega
      · simp [NamesNothing, named]
        omega
    · -- The entry is told of, and is none that names nothing.
      have heard : ¬ NamesNothing owners entry entries := by
        rintro ⟨_, owned, free⟩
        exact refused ⟨owned, by rw [label, if_pos owned, free]⟩
      rw [kept, if_neg heard, Option.toList_some, List.length_singleton, List.length_nil]
      dsimp only
      omega

/-- The labels are the names of the owned parameters, and the others have none. -/
theorem labelAll_toList : (labelAll owners entries).1.toList =
    (List.range owners.size).map fun place => if Owned owners place then nameAt entries place else
    [] := by
  apply List.ext_getElem?
  intro place
  by_cases inside : place < owners.size
  · -- Inside the table there is a label, and it is the one that is looked up there.
    have bound : place < (labelAll owners entries).1.size := by rwa [labelAll_size]
    have label := labelAll_get owners entries place
    rw [Array.getElem?_eq_getElem bound, Option.getD_some] at label
    simp [bound, inside, label]
  · simp [labelAll_size, inside]

end Names

namespace Diagnostic

/-- Whether a diagnostic is counted as one of an entry of the name table. -/
def OfName (diagnostic : Diagnostic) : Prop :=
  diagnostic.reason = utf8 "orphan_name" ∨ diagnostic.reason = utf8 "duplicate_name"
  deriving Decidable

/-- Whether a diagnostic is counted as one of a parameter. -/
def OfParameter (diagnostic : Diagnostic) : Prop := diagnostic.reason = utf8 "orphan_parameter"
  deriving Decidable

/-- What is told of a parameter is told of no entry. -/
theorem ofParameter_iff {diagnostic : Diagnostic} :
    diagnostic.OfParameter ↔ ¬ diagnostic.OfName := by
  -- The word for parameters is neither of the two words for entries.
  have apart : utf8 "orphan_name" ≠ utf8 "orphan_parameter" ∧
      utf8 "duplicate_name" ≠ utf8 "orphan_parameter" := by
    decide
  cases diagnostic with
  | orphanName name index offset => exact iff_of_false apart.1 (not_not.mpr (.inl rfl))
  | duplicateName name index offset => exact iff_of_false apart.2 (not_not.mpr (.inr rfl))
  | orphanParameter index offset => exact iff_of_true rfl (not_or.mpr ⟨apart.1.symm, apart.2.symm⟩)

end Diagnostic

/-- All that is told of a name table is told of its entries. -/
theorem labelAll_ofName (owners : Owners) (entries : List NameEntry) :
    ∀ diagnostic ∈ (labelAll owners entries).2, diagnostic.OfName := by
  induction entries using List.reverseRecOn with
  | nil => simp [labelAll]
  | append_singleton entries entry ih =>
    rw [labelAll_concat]
    intro diagnostic member
    rcases List.mem_append.mp member with earlier | last
    · exact ih diagnostic earlier
    · -- The last entry is an orphan or a duplicate, if anything is told of it.
      have told := Option.mem_toList.mp last
      unfold label at told
      split at told
      · cases told
        exact .inl rfl
      · split at told
        · cases told
          exact .inr rfl
        · cases told

/-- A name that the entries in front give to a place stays its name, whatever entries come
behind. -/
theorem nameAt_append_of_ne {front behind : List NameEntry} {place : Nat}
    (named : nameAt front place ≠ []) :
    nameAt (front ++ behind) place = nameAt front place := by
  unfold nameAt at named ⊢
  rw [List.find?_append]
  -- The search ends in front.
  cases found : front.find? fun entry => entry.index = place ∧ entry.name ≠ [] with
  | none =>
    rw [found] at named
    exact absurd rfl named
  | some first => rfl

namespace RawDefinition

variable (raw : RawDefinition)

/-- The entries of a definition that name nothing. -/
def blanks : List NameEntry := blankEntries raw.owners raw.entries.toList

/-- What is told of the parameters of a definition is that they are orphans. -/
theorem orphanParameters_ofParameter :
    ∀ diagnostic ∈ orphanParameters raw.parametersAt raw.owners, diagnostic.OfParameter := by
  -- Only a place without an owner is told of.
  intro diagnostic member
  obtain ⟨item, _, told⟩ := List.mem_filterMap.mp member
  obtain ⟨owner, place⟩ := item
  cases owner with
  | some rate => cases told
  | none =>
    cases told
    rfl

/-- The controls with a name are as many as the labels that say something. -/
theorem countP_named : raw.resolve.controls.countP Descriptor.named =
    (labelAll raw.owners raw.entries.toList).1.toList.countP (fun text => text ≠ []) := by
  have size : raw.owners.size = raw.defaults.size := by simp [owners_eq]
  show (raw.controls raw.owners).countP Descriptor.named = _
  rw [controls_eq, labelAll_toList, List.countP_filterMap, List.countP_map, size]
  -- A place has a control with a name exactly when it is owned and an entry names it.
  refine List.countP_congr fun place member => ?_
  have owned : Owned raw.owners place ↔ _ := raw.owned_iff
  simp only [List.mem_range.mp member, true_and] at owned
  cases rate : raw.rateAt? place with
  | none =>
    rw [rate] at owned
    simp [owned]
  | some rate' =>
    rw [rate] at owned
    simp [owned, parameter, Descriptor.named]

/-- The entries of a definition are accounted for. -/
theorem entries_account : raw.entries.size =
    raw.resolve.controls.countP Descriptor.named +
      raw.diagnostics.countP (fun diagnostic => diagnostic.OfName) + raw.blanks.length := by
  -- The diagnostics are those of the names and those of the parameters, which count as none.
  have names :
      (labelAll raw.owners raw.entries.toList).2.countP (fun diagnostic => diagnostic.OfName) =
        (labelAll raw.owners raw.entries.toList).2.length := by
    rw [List.countP_eq_length]
    exact fun diagnostic member => decide_eq_true (labelAll_ofName _ _ diagnostic member)
  have orphans : (orphanParameters raw.parametersAt raw.owners).countP
      (fun diagnostic => diagnostic.OfName) = 0 := by
    rw [List.countP_eq_zero]
    intro diagnostic member
    simpa using Diagnostic.ofParameter_iff.mp (raw.orphanParameters_ofParameter diagnostic member)
  rw [diagnostics, List.countP_append, names, orphans, Nat.add_zero, countP_named, blanks,
    ← labelAll_account, Array.length_toList]

/-- The parameters of a definition are accounted for. -/
theorem parameters_account : raw.defaults.size =
    raw.resolve.controls.length +
      raw.diagnostics.countP (fun diagnostic => diagnostic.OfParameter) := by
  have names : (labelAll raw.owners raw.entries.toList).2.countP
      (fun diagnostic => diagnostic.OfParameter) = 0 := by
    rw [List.countP_eq_zero]
    intro diagnostic member
    simpa [Diagnostic.ofParameter_iff] using labelAll_ofName _ _ diagnostic member
  have orphans : (orphanParameters raw.parametersAt raw.owners).countP
    (fun diagnostic => diagnostic.OfParameter) =
      (List.range raw.defaults.size).countP fun place => ¬ (raw.rateAt? place).isSome = true := by
    -- All that is told of parameters counts, and it is told of those without an owner.
    rw [List.countP_eq_length.mpr fun diagnostic member =>
      decide_eq_true (raw.orphanParameters_ofParameter diagnostic member), orphanParameters,
      owners_zipIdx, List.filterMap_map, List.length_filterMap_eq_countP]
    refine List.countP_congr fun place _ => ?_
    cases rate : raw.rateAt? place <;> simp [rate]
  -- A parameter has an owner or has none.
  have all := List.length_eq_countP_add_countP (fun place => (raw.rateAt? place).isSome)
    (l := List.range raw.defaults.size)
  rw [List.length_range] at all
  rw [diagnostics, List.countP_append, names, orphans, Nat.zero_add]
  show _ = (raw.controls raw.owners).length + _
  rw [length_controls]
  exact all

/-- Without its offsets a definition has as many entries that name nothing. -/
theorem length_blanks_unlocated : raw.unlocated.blanks.length = raw.blanks.length := by
  -- The offsets are neither in the names nor in the indices that the entries are looked at for.
  simp only [blanks, blankEntries, List.length_map, unlocated, Array.toList_map,
    ← List.countP_eq_length_filter, List.zipIdx_map, List.countP_map]
  refine List.countP_congr fun item _ => ?_
  simp only [Function.comp_apply, Prod.map_fst, Prod.map_snd, ← List.map_take, NamesNothing,
    nameAt_located]
  rfl

/-- What a reader makes of a definition has all its parameters, and all the names that its entries
give. -/
structure KeptIn (definition : Definition) : Prop where
  parameters : definition.controls.map Descriptor.default = raw.defaults.toList
  names : ∀ entry ∈ raw.entries, entry.name ≠ [] →
    definition.controls[entry.index]?.map Descriptor.name = some entry.name

variable {raw}

/-- Where nothing is wrong with a definition, everything in it is kept. -/
theorem keptIn_resolve (quiet : raw.diagnostics = []) : raw.KeptIn raw.resolve := by
  obtain ⟨all, single⟩ := raw.diagnostics_eq_nil_iff.mp quiet
  -- As all parameters are owned, none moves.
  have control : ∀ place < raw.defaults.size,
      ∃ rate, raw.resolve.controls[place]? = some (raw.parameter place rate) := by
    intro place inside
    obtain ⟨rate, owned⟩ := all place inside
    refine ⟨rate, ?_⟩
    have found := raw.controls_get inside owned
    rwa [raw.rebase_eq all (Nat.le_of_lt inside)] at found
  constructor
  · apply List.ext_getElem?
    intro place
    by_cases inside : place < raw.defaults.size
    · obtain ⟨rate, found⟩ := control place inside
      simp [found, parameter, inside]
    · -- There are no more controls than parameters.
      have length : raw.resolve.controls.length ≤ raw.defaults.size := by
        have account := raw.parameters_account
        omega
      rw [List.getElem?_eq_none (by simpa using by omega),
        List.getElem?_eq_none (by simpa using by omega)]
  · intro entry member named
    obtain ⟨i, here⟩ := Array.mem_iff_getElem?.mp member
    obtain ⟨inside, first⟩ := single i entry here
    obtain ⟨rate, found⟩ := control entry.index inside
    rw [found, Option.map_some]
    -- No entry in front of this one names its parameter, so that its own name is the first.
    have own : nameAt (raw.entries.toList.take i ++ [entry]) entry.index = entry.name := by
      rw [nameAt_concat, if_pos ⟨first, rfl⟩]
    rw [← Array.getElem?_toList] at here
    obtain ⟨bound, same⟩ := List.getElem?_eq_some_iff.mp here
    have split : raw.entries.toList = (raw.entries.toList.take i ++ [entry]) ++
        raw.entries.toList.drop (i + 1) := by
      rw [← same, List.take_append_getElem, List.take_append_drop]
    show some (nameAt raw.entries.toList entry.index) = some entry.name
    rw [split, nameAt_append_of_ne (own ▸ named), own]

end RawDefinition

/-- A file is accounted for by the definitions that are read from it and by what is told of it. The
entries of its name tables are as many as the controls with a name, what is told of entries, and the
entries that name nothing. The parameters are as many as the controls and what is told of
parameters. -/
structure Accounted (raws : List RawDefinition) (definitions : List Definition)
    (dropped : List (Bytes × Diagnostic)) :
    Prop where
  entries : (raws.flatMap fun raw => raw.entries.toList).length =
    (definitions.flatMap Definition.controls).countP Descriptor.named +
      dropped.countP (fun item => item.2.OfName) + (raws.flatMap RawDefinition.blanks).length
  parameters : (raws.flatMap fun raw => raw.defaults.toList).length =
    (definitions.flatMap Definition.controls).length + dropped.countP
      (fun item => item.2.OfParameter)

/-- A file is accounted for by what its definitions stand for and by what is wrong with them. -/
theorem accounted_resolve (raws : List RawDefinition) :
    Accounted (raws.map RawDefinition.unlocated) (raws.map RawDefinition.resolve)
      (raws.flatMap fun raw => raw.diagnostics.map fun diagnostic => (raw.name, diagnostic)) := by
  -- The account of a file is the sum of those of its definitions.
  induction raws with
  | nil => exact ⟨rfl, rfl⟩
  | cons raw raws ih =>
    have names := raw.entries_account
    have blanks := raw.length_blanks_unlocated
    have parameters := raw.parameters_account
    have size : raw.unlocated.entries.size = raw.entries.size := by simp [RawDefinition.unlocated]
    have defaults : raw.unlocated.defaults = raw.defaults := rfl
    constructor
    · have rest := ih.entries
      simp only [List.map_cons, List.flatMap_cons, List.length_append, List.countP_append,
        List.countP_map, Array.length_toList, Function.comp_def] at rest names ⊢
      omega
    · have rest := ih.parameters
      simp only [List.map_cons, List.flatMap_cons, List.length_append, List.countP_append,
        List.countP_map, Array.length_toList, Function.comp_def] at rest parameters ⊢
      rw [defaults]
      omega

/-- Nothing but an empty name is dropped from a file without a word. Whatever a tolerant reader
accepts is the written form of one file only, and every entry of its name tables is the name of a
control, is told of as an orphan or a duplicate, or is empty and leaves a control without a name.
Every parameter is a control or is told of as an orphan. So a strict reader accepts only files of
which it keeps all parameters and all names. -/
theorem decode_accounts {data : Bytes} {definitions : List Definition}
    (read : decode false data = .ok definitions) :
    ∃ raws, Grammatical raws ∧ fileBytes raws = data ∧
      (∀ others, Grammatical others → fileBytes others = data → others = raws) ∧
      Accounted raws definitions (droppedFrom false data) ∧
      ∀ kept, decode true data = .ok kept → List.Forall₂ RawDefinition.KeptIn raws kept := by
  obtain ⟨located, sound, rfl, _, rfl⟩ := decode_eq_ok_iff.mp read
  have grammatical := Grammatical.of_sound sound
  have written : fileBytes (located.map RawDefinition.unlocated) = fileBytes located := by
    rw [fileBytes, fileBytes, List.length_map, List.flatMap_map]
    simp only [RawDefinition.unlocated_bytes]
  refine ⟨_, grammatical, written, ?_, ?_, ?_⟩
  · intro others also same
    exact also.eq_of_bytes grammatical (same.trans written.symm)
  · rw [droppedFrom_eq sound fun isStrict => by cases isStrict]
    exact accounted_resolve located
  · -- What a strict reader accepts is the same file, with which nothing is wrong.
    intro kept strictly
    obtain ⟨others, also, same, quiet, rfl⟩ := decode_eq_ok_iff.mp strictly
    obtain rfl := sound.eq_of_bytes also same
    rw [List.forall₂_map_left_iff, List.forall₂_map_right_iff, List.forall₂_same]
    intro raw member
    have clean := raw.diagnostics_unlocated.mpr (quiet rfl raw member)
    exact raw.resolve_unlocated ▸ RawDefinition.keptIn_resolve clean

/-- The tangled definition is accounted for: two of its five entries become names, one is an orphan,
one a duplicate and one empty, and two of its five parameters are orphans. -/
theorem tangled_accounted :
    decode false (fileBytes [tangled]) = .ok [tangled.resolve] ∧ tangled.entries.size = 5 ∧
      tangled.resolve.controls.countP Descriptor.named = 2 ∧ tangled.blanks.length = 1 ∧
      Accounted [tangled] [tangled.resolve] (droppedFrom false (fileBytes [tangled])) := by
  -- What is told of the entries and what names nothing is counted, and the rest are names.
  have told : tangled.diagnostics.countP (fun diagnostic => diagnostic.OfName) = 2 := by decide
  have blank : tangled.blanks.length = 1 := by decide
  have account := tangled.entries_account
  have size : tangled.entries.size = 5 := rfl
  refine ⟨tangled_grammatical.decode_tolerant, size, by omega, blank, ?_⟩
  obtain ⟨raws, _, _, unique, accounted, _⟩ := decode_accounts tangled_grammatical.decode_tolerant
  have same : [tangled] = raws := unique [tangled] tangled_grammatical rfl
  rwa [← same] at accounted

/-- A definition in a file with one control and an empty name for it. -/
def nameless : RawDefinition where
  name := utf8 "nameless"
  constants := #[]
  parametersAt := 0
  defaults := #[⟨0x3F800000⟩]
  entries := #[⟨[], 0, 0⟩]
  nodes := #[⟨utf8 "Control", .control, 0, #[], #[.control]⟩]

/-- The empty name goes without a word: it becomes no name, nothing is told of it, and a strict
reader accepts it. -/
theorem nameless_unaccounted :
    Grammatical [nameless] ∧ decode false (fileBytes [nameless]) = .ok [nameless.resolve] ∧
      decode true (fileBytes [nameless]) = .ok [nameless.resolve] ∧
      nameless.entries.size - nameless.resolve.controls.countP Descriptor.named ≠
        (droppedFrom false (fileBytes [nameless])).countP (fun item => item.2.OfName) := by
  -- The definition is in the grammar, and there is nothing to tell of it.
  have grammatical : Grammatical [nameless] :=
    ⟨by decide, List.forall_mem_singleton.mpr (by decide),
      List.forall_mem_singleton.mpr
        (by simp [RawDefinition.unlocated, nameless, NameEntry.located])⟩
  have quiet : ∀ raw ∈ [nameless], raw.diagnostics = [] := List.forall_mem_singleton.mpr (by decide)
  refine ⟨grammatical, grammatical.decode_tolerant, grammatical.decode_eq fun _ => quiet, ?_⟩
  rw [grammatical.droppedFrom_eq_nil_iff.mpr quiet]
  decide

end Patchbay.Stream
