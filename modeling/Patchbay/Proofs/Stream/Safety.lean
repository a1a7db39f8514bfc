import Patchbay.Proofs.Stream.Mirror
import Patchbay.Proofs.Stream.Modes

/-! Safe reading: whatever bytes it is given, the reader looks up nothing outside of its tables, and
it either reads the whole file or tells a place in it that is wrong. -/

namespace Patchbay.Stream

namespace RawDefinition

variable (raw : RawDefinition)

/-- What is wrong with a parameter that no control node owns. -/
def orphan? (place : Nat) : Option Diagnostic :=
  if raw.rateAt? place = none then some (.orphanParameter place (raw.parametersAt + 4 * place))
  else none

/-- The parameters that no control node owns are told of place by place. -/
theorem orphanParameters_eq :
    orphanParameters raw.parametersAt raw.owners =
      (List.range raw.defaults.size).filterMap raw.orphan? := by
  -- An orphan is told of at each place without a rate.
  rw [orphanParameters, raw.owners_zipIdx, List.filterMap_map]
  refine List.filterMap_congr fun place _ => ?_
  simp only [Function.comp_apply, orphan?]
  cases raw.rateAt? place <;> simp

end RawDefinition

namespace Indexed

/-- An index inside of its table can be written to. -/
theorem put_eq {α : Type} {table : Array α} {place : Nat} (inside : place < table.size) (item : α) :
    put table place item = some (table.setIfInBounds place item) := if_pos inside

/-- An item inside of its table is changed by writing what it is changed to. -/
theorem modify_eq {α : Type} {table : Array α} {place : Nat} (inside : place < table.size)
    (change : α → α) :
    table.modify place change = table.setIfInBounds place (change table[place]) := by
  -- Both arrays have the same item at each place.
  apply Array.ext_getElem?
  intro other
  rw [Array.getElem?_modify, Array.getElem?_setIfInBounds]
  by_cases same : place = other
  · subst same
    simp [inside]
  · simp [same]

/-- Items that are all found are found one after the other. -/
theorem mapM_eq_some {α β : Type} {find : α → Option β} {other : α → β} {items : List α}
    (each : ∀ item ∈ items, find item = some (other item)) :
    items.mapM find = some (items.map other) := by
  -- The items are found in turn.
  induction items with
  | nil => rfl
  | cons item rest ih =>
    rw [List.forall_mem_cons] at each
    simp [List.mapM_cons, each.1, ih each.2]

/-- A claim on parameters of the table finds all of them there, and leaves as many. -/
theorem claim_eq {place : Nat} {rates : List Rate} {owners : Owners}
    (inside : place + rates.length ≤ owners.size) :
    claim place rates owners = some (Stream.claim place rates owners) ∧
      (Stream.claim place rates owners).size = owners.size := by
  -- The place moves along with the rates that are left.
  induction rates generalizing place owners with
  | nil => exact ⟨rfl, rfl⟩
  | cons rate rest ih =>
    rw [List.length_cons] at inside
    have here : place < owners.size := by omega
    have later : ∀ owner, claim (place + 1) rest (owners.setIfInBounds place owner) =
          some (Stream.claim (place + 1) rest (owners.setIfInBounds place owner)) ∧
        (Stream.claim (place + 1) rest (owners.setIfInBounds place owner)).size = owners.size := by
      intro owner
      have size : (owners.setIfInBounds place owner).size = owners.size := Array.size_setIfInBounds
      rw [← size]
      exact ih (by omega)
    rw [claim, Stream.claim, Array.getElem?_eq_getElem here, modify_eq here]
    simp only [Option.bind_eq_bind, Option.bind_some, put_eq here]
    -- An owner stays, and a place without one gets the first rate.
    cases owners[place] with
    | none => exact later (some rate)
    | some first => exact later (some first)

/-- Claims of control nodes whose parameters lie in the table find all of them there. -/
theorem claims_eq {nodes : List RawNode} {owners : Owners}
    (inside : ∀ node ∈ nodes, isControlOp node.op = true →
      node.special + node.outputs.size ≤ owners.size) :
    nodes.foldlM (fun owners node =>
        if isControlOp node.op then claim node.special node.outputs.toList owners
          else return owners) owners =
      some (nodes.foldl (fun owners node =>
        if isControlOp node.op then Stream.claim node.special node.outputs.toList owners
          else owners) owners) := by
  -- Each claim keeps the size of the table, so that the next one finds its places as well.
  induction nodes generalizing owners with
  | nil => rfl
  | cons node rest ih =>
    rw [List.forall_mem_cons] at inside
    rw [List.foldlM_cons, List.foldl_cons]
    cases control : isControlOp node.op with
    | false => exact ih inside.2
    | true =>
      obtain ⟨found, size⟩ :=
        @claim_eq node.special node.outputs.toList owners (by simpa using inside.1 control)
      simp only [if_true, found]
      exact ih (size ▸ inside.2)

/-- An entry is labelled by indices that the tables have. -/
theorem label_eq {owners : Owners} {labels : Array Bytes} (size : labels.size = owners.size)
    (entry : NameEntry) :
    label owners labels entry = some (Stream.label owners labels entry) := by
  -- The index is refused by both, or both tables have it.
  unfold label Stream.label
  by_cases inside : entry.index < owners.size
  · have listed : entry.index < labels.size := size ▸ inside
    rw [if_neg (Nat.not_le.mpr inside), Array.getElem?_eq_getElem inside,
      Array.getElem?_eq_getElem listed]
    simp only [Option.bind_eq_bind, Option.bind_some, Option.getD_some, put_eq listed]
    split
    · rfl
    · split <;> rfl
  · rw [if_pos (Nat.le_of_not_lt inside), Array.getElem?_eq_none (Nat.le_of_not_lt inside)]
    rfl

/-- The name table is labelled by indices that the tables have. -/
theorem labelAll_eq (owners : Owners) (entries : List NameEntry) :
    labelAll owners entries = some (Stream.labelAll owners entries) := by
  -- The last entry is taken off, as there is a label for each parameter after the others.
  induction entries using List.reverseRecOn with
  | nil => rfl
  | append_singleton entries entry ih =>
    rw [labelAll] at ih ⊢
    rw [List.foldlM_append, ih, labelAll_concat]
    simp [label_eq (labelAll_size owners entries)]

/-- The parameters packed up to a place: the counts in front of them are known, the owned ones are
controls, and the others are told of. -/
structure PackedTo (raw : RawDefinition) (count : Nat) (packed : Packed) : Prop where
  size : packed.before.size = raw.defaults.size + 1
  before : ∀ place < count, packed.before[place]? = some (raw.rebase place)
  controls : packed.controls.toList =
    (List.range count).filterMap fun place => (raw.rateAt? place).map (raw.parameter place)
  orphans : packed.orphans = (List.range count).filterMap raw.orphan?

section Pack

variable {raw : RawDefinition} {packed : Packed} {count : Nat}

/-- The count of the next place can be written, and then it is known up to there. -/
theorem PackedTo.counted (done : PackedTo raw count packed) (inside : count ≤ raw.defaults.size) :
    ∃ before, put packed.before count packed.controls.size = some before ∧
      before.size = raw.defaults.size + 1 ∧
      ∀ place < count + 1, before[place]? = some (raw.rebase place) := by
  have here : count < packed.before.size := by
    rw [done.size]
    omega
  -- There are as many controls as owned parameters so far.
  have total : packed.controls.size = raw.rebase count := by
    rw [← Array.length_toList, done.controls, raw.length_owned]
  refine ⟨_, put_eq here _, by rw [Array.size_setIfInBounds, done.size], fun place below => ?_⟩
  rw [Array.getElem?_setIfInBounds]
  by_cases same : count = place
  · subst same
    rw [if_pos rfl, if_pos here, total]
  · rw [if_neg same]
    exact done.before place (by omega)

/-- The next parameter is packed by indices that the tables have. -/
theorem PackedTo.next (done : PackedTo raw count packed) (inside : count < raw.defaults.size) :
    ∃ next, pack raw raw.owners (Stream.labelAll raw.owners raw.entries.toList).1 packed count =
      some next ∧
      PackedTo raw (count + 1) next := by
  obtain ⟨before, written, size, known⟩ := done.counted (Nat.le_of_lt inside)
  have owner : raw.owners[count]? = some (raw.rateAt? count) := by
    rw [raw.owners_eq]
    simp [inside]
  unfold pack
  rw [written, owner]
  cases rate : raw.rateAt? count with
  | none =>
    -- A parameter without an owner is told of.
    refine ⟨_, rfl, size, known, ?_, ?_⟩
    · simp [done.controls, List.range_succ, rate]
    · simp [done.orphans, List.range_succ, RawDefinition.orphan?, rate]
  | some rate' =>
    -- An owned parameter has a label and a default.
    have listed : count < (Stream.labelAll raw.owners raw.entries.toList).1.size := by
      rw [labelAll_size, raw.owners_eq]
      simpa using inside
    have owned : Owned raw.owners count := raw.owned_iff.mpr ⟨inside, rate', rate⟩
    have label := labelAll_get raw.owners raw.entries.toList count
    rw [Array.getElem?_eq_getElem listed, Option.getD_some, if_pos owned] at label
    rw [Array.getElem?_eq_getElem listed, Array.getElem?_eq_getElem inside, label]
    refine ⟨_, rfl, size, known, ?_, ?_⟩
    · simp [done.controls, List.range_succ, rate, RawDefinition.parameter, inside]
    · simp [done.orphans, List.range_succ, RawDefinition.orphan?, rate]

/-- Any number of parameters is packed by indices that the tables have. -/
theorem packedTo (raw : RawDefinition) (inside : count ≤ raw.defaults.size) :
    ∃ packed, (List.range count).foldlM
      (pack raw raw.owners (Stream.labelAll raw.owners raw.entries.toList).1)
        ⟨Array.replicate (raw.defaults.size + 1) 0, #[], []⟩ = some packed ∧
        PackedTo raw count packed := by
  -- The parameters are packed in turn, and each step keeps what was packed.
  induction count with
  | zero => exact ⟨_, rfl, by simp, by simp, rfl, rfl⟩
  | succ count ih =>
    obtain ⟨packed, reached, done⟩ := ih (Nat.le_of_succ_le inside)
    obtain ⟨next, step, more⟩ := done.next inside
    refine ⟨next, ?_, more⟩
    rw [List.range_succ, List.foldlM_append, reached]
    simp [step]

/-- All parameters are packed by indices that the tables have. Then every count up to the end of the
table is known, and there are the controls of the definition and what is wrong with its other
parameters. -/
theorem packAll_eq (raw : RawDefinition) :
    ∃ packed, packAll raw raw.owners (Stream.labelAll raw.owners raw.entries.toList).1 =
      some packed ∧
      (∀ place ≤ raw.defaults.size, packed.before[place]? = some (raw.rebase place)) ∧
      packed.controls.toList = raw.controls raw.owners ∧
      packed.orphans = orphanParameters raw.parametersAt raw.owners := by
  -- After the last parameter one more count is written, behind the table.
  obtain ⟨packed, reached, done⟩ := packedTo raw (Nat.le_refl _)
  obtain ⟨before, written, _, known⟩ := done.counted (Nat.le_refl _)
  refine ⟨{ packed with before := before }, ?_,
    fun place inside => known place (Nat.lt_succ_of_le inside), ?_, ?_⟩
  · simp [packAll, reached, written]
  · rw [done.controls, raw.controls_eq]
  · rw [done.orphans, raw.orphanParameters_eq]

end Pack

section Resolve

variable {raw : RawDefinition}

/-- A row is resolved by indices that the tables have: the parameters of a control node lie among
the packed ones, up to their end if it has none. -/
theorem resolveNode_eq (fits : raw.Fits) {row : Nat} {node : RawNode}
    (here : raw.nodes[row]? = some node) {before : Array Nat} {controls : Array Descriptor}
    (known : ∀ place ≤ raw.defaults.size, before[place]? = some (raw.rebase place))
    (packed : controls.toList = raw.controls raw.owners) :
    resolveNode node row before controls =
      some (node.resolve row (ownedBefore raw.owners) (raw.controls raw.owners).toArray) := by
  unfold resolveNode RawNode.resolve
  cases control : isControlOp node.op with
  | false => rfl
  | true =>
    have bound : node.special ≤ raw.defaults.size := by
      have all := (fits.nodes row node here).parameters control
      omega
    have enough := RawDefinition.placeOf_add_le fits here control
    rw [RawDefinition.placeOf, if_pos control, ← packed, Array.length_toList] at enough
    -- The part of the packed parameters that starts with those of the node.
    have part : slice controls.toList (raw.rebase node.special) controls.size =
        some (controls.toList.drop (raw.rebase node.special)) := by
      rw [slice, if_pos ⟨by omega, Nat.le_refl _⟩, ← Array.length_toList, List.take_length]
    have each : ∀ output ∈ node.outputs.toList.zipIdx,
        describe (controls.toList.drop (raw.rebase node.special)) output =
          some { controls[raw.rebase node.special + output.2]?.getD .blank with
            rate := output.1 } := by
      intro output listed
      have below : output.2 < node.outputs.size := by
        simpa using List.snd_lt_of_mem_zipIdx listed
      have found : raw.rebase node.special + output.2 < controls.size := by omega
      rw [describe, List.getElem?_drop, Array.getElem?_toList, Array.getElem?_eq_getElem found]
      rfl
    simp only [if_true, known _ bound, raw.ownedBefore_get bound, part, Option.bind_eq_bind,
      Option.bind_some, mapM_eq_some each, Option.getD_some, ← packed, Array.toArray_toList]
    rfl

/-- A definition that fits the format is resolved by indices that the tables have. -/
theorem resolve_eq (fits : raw.Fits) : resolve raw = some (raw.diagnostics, raw.resolve) := by
  -- The claims, the labels, the packing and each row find their places in turn.
  have owned : owners raw = some raw.owners := by
    rw [owners, RawDefinition.owners, ← Array.foldl_toList]
    refine claims_eq fun node listed control => ?_
    obtain ⟨row, here⟩ := Array.mem_iff_getElem?.mp (Array.mem_toList_iff.mp listed)
    simpa using (fits.nodes row node here).parameters control
  obtain ⟨packed, filled, known, controls, orphans⟩ := packAll_eq raw
  have rows : ∀ node ∈ raw.nodes.toList.zipIdx,
      resolveNode node.1 node.2 packed.before packed.controls =
        some (node.1.resolve node.2 (ownedBefore raw.owners)
          (raw.controls raw.owners).toArray) := by
    intro node listed
    have here := List.mem_zipIdx_iff_getElem?.mp listed
    rw [Array.getElem?_toList] at here
    exact resolveNode_eq fits here known controls
  simp only [resolve, owned, labelAll_eq, filled, mapM_eq_some rows, Option.bind_eq_bind,
    Option.bind_some, controls, orphans]
  rfl

-- A control node without outputs may stand at the end of the table, where the packed parameters end
-- too.
example : (resolve ⟨[], #[], 0, #[⟨0⟩], #[], #[⟨utf8 "Control", .control, 1, #[], #[]⟩]⟩).map
    (fun found => (found.1, found.2.nodes)) = some ([.orphanParameter 0 0], [⟨0, 0⟩]) := by
  decide

end Resolve

end Indexed

/-- What is wrong with the name table is wrong with one of its entries. -/
theorem mem_labelAll {owners : Owners} {entries : List NameEntry} {diagnostic : Diagnostic}
    (found : diagnostic ∈ (labelAll owners entries).2) :
    ∃ entry ∈ entries, diagnostic = .orphanName entry.name entry.index entry.offset ∨
      diagnostic = .duplicateName entry.name entry.index entry.offset := by
  induction entries using List.reverseRecOn with
  | nil => cases found
  | append_singleton entries entry ih =>
    rw [labelAll_concat, List.mem_append] at found
    rcases found with earlier | last
    · obtain ⟨other, listed, told⟩ := ih earlier
      exact ⟨other, List.mem_append_left _ listed, told⟩
    · -- The last entry is told of when its parameter has no owner, or has a name already.
      refine ⟨entry, by simp, ?_⟩
      unfold label at last
      split at last
      · exact .inl (by simpa using last)
      · split at last
        · exact .inr (by simpa using last)
        · cases last

/-- The defaults of parameters take four bytes each. -/
theorem length_flatMap_single (values : List Single) :
    (values.flatMap single).length = 4 * values.length := by
  -- Each sample value takes four bytes.
  induction values with
  | nil => rfl
  | cons value rest ih =>
    rw [List.flatMap_cons, List.length_append, ih, List.length_cons]
    simp only [single, word32, word16, List.length_append, List.length_cons, List.length_nil]
    omega

/-- What is wrong with a definition that stands in a file is wrong at a place in front of its
end. -/
theorem RawDefinition.Sound.diagnostic_offset {raw : RawDefinition} {start : Nat}
    (sound : raw.Sound start) {diagnostic : Diagnostic} (found : diagnostic ∈ raw.diagnostics) :
    ∃ offset : Nat, (diagnostic.fault raw.name).offset = offset ∧
      offset ≤ start + raw.bytes.length := by
  have whole : raw.bytes.length =
    raw.front.length + (raw.entries.toList.flatMap NameEntry.bytes).length +
      (table RawNode.bytes raw.nodes.toList).length + (word16 0).length := by
    simp only [bytes, List.length_append]
  rw [diagnostics, List.mem_append] at found
  rcases found with named | orphan
  · -- An entry stands behind the front and the entries before it.
    obtain ⟨entry, listed, told⟩ := mem_labelAll named
    obtain ⟨i, here⟩ := Array.mem_iff_getElem?.mp (Array.mem_toList_iff.mp listed)
    have offset := sound.offsets i entry here
    have parts := congrArg List.length
      (congrArg (List.flatMap NameEntry.bytes) (List.take_append_drop i raw.entries.toList))
    rw [List.flatMap_append, List.length_append] at parts
    refine ⟨entry.offset, ?_, by omega⟩
    rcases told with rfl | rfl
    · rfl
    · rfl
  · -- A parameter is one of the defaults, which stand behind the head.
    rw [orphanParameters_eq, List.mem_filterMap] at orphan
    obtain ⟨place, inside, told⟩ := orphan
    rw [orphan?, Option.ite_none_right_eq_some] at told
    obtain ⟨-, told⟩ := told
    cases told
    have start := sound.parametersAt
    have front : raw.front.length =
        raw.head.length + 4 * raw.defaults.size + (word16 raw.entries.size).length := by
      simp only [RawDefinition.front, List.length_append, length_flatMap_single,
        Array.length_toList]
    rw [List.mem_range] at inside
    exact ⟨_, rfl, by omega⟩

/-- What a strict reader makes of something wrong in a file is a fault of its reading. -/
theorem RawDefinition.Sound.fault_ofReading {raw : RawDefinition} {start : Nat}
    (sound : raw.Sound start)
    {data : Bytes} (inside : start + raw.bytes.length ≤ data.length) {diagnostic : Diagnostic}
    (found : diagnostic ∈ raw.diagnostics) : (diagnostic.fault raw.name).OfReading true data := by
  -- A diagnostic tells a place in the definition, and its fault is an inconsistency.
  obtain ⟨offset, place, bound⟩ := sound.diagnostic_offset found
  have kind := diagnostic.fault_kind raw.name
  have cause : (diagnostic.fault raw.name).cause = .orphanControl := by
    cases diagnostic with
    | orphanName name index offset => rfl
    | duplicateName name index offset => rfl
    | orphanParameter index offset => rfl
  refine ⟨by omega, by omega, ?_, .inr (.inr ⟨rfl, kind⟩)⟩
  rw [kind, cause]
  simp

namespace Indexed

variable {strict : Bool} {data : Bytes} {position : Position}

section Step

variable {raw : RawDefinition} {next : Position} {total count : Nat} {done : Array Definition}

/-- Behind a definition with nothing wrong, or nothing that is minded, the next one is read. -/
theorem readDefinitions_clean (read : readDefinition data position = pure (raw, next))
    (fits : raw.Fits) (clean : strict = true → raw.diagnostics = []) :
    readDefinitions strict data total (count + 1) done position =
      readDefinitions strict data total count (done.push raw.resolve) next := by
  -- The definition is resolved, and there is nothing to stop for.
  rw [readDefinitions, read, pure_bind]
  simp only
  rw [resolve_eq fits, look_some]
  cases strict with
  | false => cases raw.diagnostics <;> rfl
  | true => rw [clean rfl]

/-- A strict reader fails at the first thing that is wrong with a definition. -/
theorem readDefinitions_wrong (read : readDefinition data position = pure (raw, next))
    (fits : raw.Fits)
    {diagnostic : Diagnostic} {rest : List Diagnostic}
    (wrong : raw.diagnostics = diagnostic :: rest) :
    readDefinitions true data total (count + 1) done position =
      throw (diagnostic.fault raw.name) := by
  -- The definition is resolved, and its first diagnostic is thrown.
  rw [readDefinitions, read, pure_bind]
  simp only
  rw [resolve_eq fits, look_some, wrong]

end Step

/-- Definitions are read by indices that the tables have, and a fault of it is one of the
reading. -/
theorem readDefinitions_eq {total count : Nat} {done : Array Definition} (notices : List ReadNotice)
    (inside : position.offset ≤ data.length) :
    (readDefinitions strict data total count done position).run =
        some
          (Stream.readDefinitions strict total count done notices (position.cursor data)).result ∧
      ∀ fault,
        (Stream.readDefinitions strict total count done notices (position.cursor data)).result =
        .error fault → fault.OfReading strict data := by
  -- The position and what was read and told before change with every definition.
  induction count generalizing done notices position with
  | zero =>
    have ahead : (position.cursor data).rest = data.drop position.offset := rfl
    have ended : (data.drop position.offset).isEmpty = true ↔ ¬ position.offset < data.length := by
      rw [List.isEmpty_iff, List.drop_eq_nil_iff, Nat.not_lt]
    unfold readDefinitions Stream.readDefinitions
    rw [ahead]
    by_cases more : position.offset < data.length
    · -- Bytes are left over, from a place in the file on.
      rw [if_pos more, if_neg (mt ended.mp (not_not_intro more)), List.length_drop]
      refine ⟨rfl, fun fault failed => ?_⟩
      cases failed
      exact ⟨Int.natCast_nonneg _, Int.ofNat_le.mpr inside, by simp [Fault.format], .inl rfl⟩
    · rw [if_neg more, if_pos (ended.mpr more)]
      refine ⟨rfl, fun fault failed => ?_⟩
      cases failed
  | succ count ih =>
    have same : Mirrors strict data (readDefinition data position)
        (Stream.readDefinition (position.cursor data)) :=
      readDefinition_mirrors inside
    rcases same.outcome with ⟨raw, next, indexed, read, within⟩ | ⟨fault, indexed, read, told⟩
    · obtain ⟨passes, sound⟩ := readDefinition_eq_ok_iff.mp read
      by_cases clean : strict = true → raw.diagnostics = []
      · -- Both go on behind the definition.
        rw [readDefinitions_next read clean, readDefinitions_clean indexed sound.toFits clean]
        exact ih _ within
      · -- A strict reader stops at the first thing that is wrong.
        obtain ⟨isStrict, some⟩ := Classical.not_imp.mp clean
        subst isStrict
        obtain ⟨diagnostic, rest, wrong⟩ := List.exists_cons_of_ne_nil some
        rw [readDefinitions_stop read wrong, readDefinitions_wrong indexed sound.toFits wrong]
        refine ⟨rfl, fun fault failed => ?_⟩
        cases failed
        have ends : next.offset = position.offset + raw.bytes.length := passes.offset
        exact sound.fault_ofReading (ends ▸ within) (wrong ▸ List.mem_cons_self)
    · unfold readDefinitions Stream.readDefinitions
      rw [indexed, read]
      refine ⟨rfl, fun other failed => ?_⟩
      cases failed
      exact told

end Indexed

/-- The reader is safe on any bytes, strict or not. Read by indices, the file gives the same answer,
so that no index is ever outside of its table. The answer is either as many definitions as the file
starts with a count of, or a fault of the reading. -/
theorem decode_safe (strict : Bool) (data : Bytes) :
    (Indexed.decode strict data).run = some (decode strict data) ∧
      ((∃ definitions cursor, decode strict data = .ok definitions ∧
          readHeader data = .ok (definitions.length, cursor)) ∨
        ∃ fault, decode strict data = .error fault ∧ fault.OfReading strict data) := by
  have same : Mirrors strict data (Indexed.readHeader data) (readHeader data) :=
    Indexed.readHeader_mirrors
  -- The answer by indices is the same, and a fault in it is one of the reading.
  have answer : (Indexed.decode strict data).run = some (decode strict data) ∧
      ∀ fault, decode strict data = .error fault → fault.OfReading strict data := by
    unfold Indexed.decode decode reading
    rcases same.outcome with
      ⟨count, position, indexed, header, inside⟩ | ⟨fault, indexed, header, told⟩
    · rw [indexed, header]
      exact Indexed.readDefinitions_eq [] inside
    · rw [indexed, header]
      refine ⟨rfl, fun other failed => ?_⟩
      cases failed
      exact told
  refine ⟨answer.1, ?_⟩
  cases result : decode strict data with
  | error fault => exact .inr ⟨fault, rfl, answer.2 fault result⟩
  | ok definitions =>
    -- What is read comes from a file with as many definitions.
    obtain ⟨raws, sound, rfl, -, rfl⟩ := decode_eq_ok_iff.mp result
    have header := readHeader_fileBytes sound.count
    rw [← List.length_map RawDefinition.resolve] at header
    exact .inl ⟨_, _, rfl, header⟩

end Patchbay.Stream
