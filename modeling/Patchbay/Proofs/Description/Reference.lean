import Patchbay.Proofs.Bytes
import Patchbay.Proofs.Decimal.Literal
import Patchbay.Proofs.Description.Described
import Patchbay.Proofs.Text.Blank

/-! References by name: a declared identifier refers to what it names, except for the identifiers
that are also words for numbers. Those are read as constants wherever they stand alone. -/

namespace Patchbay

open Decimal

/-- The bytes of a number in decimal are visible. -/
theorem visible_natText (n : Nat) : ∀ b ∈ natText n, Text.Visible b := by
  -- The text is made of the ten digits.
  intro b member
  obtain ⟨d, small, same⟩ := (natText_digits n).2 b member
  have each : ∀ d < 10, Text.Visible (digitByte d) := by decide
  rw [same]
  exact each d small

/-- The bytes of an integer in decimal are visible. -/
theorem visible_intText (n : Int) : ∀ b ∈ intText n, Text.Visible b := by
  -- A negative number has a sign in front of its digits.
  cases n with
  | ofNat n => exact visible_natText n
  | negSucc n =>
    rw [intText_negSucc]
    exact List.forall_mem_cons.mpr ⟨by decide, visible_natText (n + 1)⟩

/-- An identifier opens with a letter or an underscore. -/
theorem exists_opens {id : Bytes} (identifier : isIdentifier id = true) :
    ∃ b rest, id = b :: rest ∧ opensIdentifier b = true := by
  -- It is not empty, and its first byte was looked at.
  cases id with
  | nil => cases identifier
  | cons b rest => exact ⟨b, rest, rfl, (Bool.and_eq_true_iff.mp identifier).1⟩

/-- Each byte of an identifier may follow in one. -/
theorem continues_of_mem {id : Bytes} (identifier : isIdentifier id = true) :
    ∀ b ∈ id, continuesIdentifier b = true := by
  -- A byte that opens an identifier may also follow in one.
  cases id with
  | nil => cases identifier
  | cons first rest =>
    obtain ⟨opens, continues⟩ := Bool.and_eq_true_iff.mp identifier
    intro b member
    rcases List.mem_cons.mp member with here | later
    · simp [here, continuesIdentifier, opens]
    · exact List.all_eq_true.mp continues b later

/-- The bytes of an identifier are visible. -/
theorem visible_identifier {id : Bytes} (identifier : isIdentifier id = true) :
    ∀ b ∈ id, Text.Visible b := by
  -- Letters, digits and the underscore all lie between the blank and the end of the visible bytes.
  intro b member
  have continues := continues_of_mem identifier b member
  simp only [continuesIdentifier, opensIdentifier, isLetter, Bool.or_eq_true, Bool.and_eq_true,
    decide_eq_true_eq, beq_iff_eq, UInt8.le_iff_toNat_le, ← UInt8.toNat_inj,
    UInt8.reduceToNat] at continues
  show 0x20 < b ∧ b < 0x7F
  simp only [UInt8.lt_iff_toNat_lt, UInt8.reduceToNat]
  omega

/-- An identifier has no colon. -/
theorem colon_notMem {id : Bytes} (identifier : isIdentifier id = true) : byte ':' ∉ id := by
  -- A colon does not continue an identifier.
  intro member
  have continues := continues_of_mem identifier _ member
  cases continues

/-- No word for a number has a colon. -/
theorem not_spellsNumber_of_colon {text : Bytes} (member : byte ':' ∈ text) :
    spellsNumber text = false := by
  -- Lower case leaves a colon as it is, and no word has one.
  have each : ∀ word ∈ numberWords, byte ':' ∉ word := by decide
  have kept : byte ':' ∈ text.map lowerByte := List.mem_map.mpr ⟨byte ':', member, rfl⟩
  rw [spellsNumber, List.contains_eq_mem, decide_eq_false_iff_not]
  intro spelled
  exact each _ spelled kept

namespace Reference

variable {id : Bytes}

/-- What starts with an identifier is read as a constant if it is a word for a number, and by its
node otherwise. -/
theorem read_identifier (identifier : isIdentifier id = true) (rest : Bytes)
    (visible : ∀ b ∈ rest, Text.Visible b) :
    (spellsNumber (id ++ rest) = true → ∃ value, read (id ++ rest) = .ok (.constant value)) ∧
      (spellsNumber (id ++ rest) = false → read (id ++ rest) = readNode (id ++ rest)) := by
  have trimmed : Text.trim (id ++ rest) = id ++ rest :=
    Text.trim_of_visible (List.forall_mem_append.mpr ⟨visible_identifier identifier, visible⟩)
  obtain ⟨b, tail, rfl, opens⟩ := exists_opens identifier
  -- The first byte rules out the mark of a parameter, and then only the number words are numbers.
  have unmarked : b ≠ byte '@' := ne_of_opens opens rfl
  have number := readSingle_of_opens opens (tail ++ rest)
  rw [List.cons_append] at trimmed ⊢
  rw [← number, read, trimmed]
  simp only [readTrimmed, if_neg unmarked]
  cases readSingle (b :: (tail ++ rest)) with
  | none => simp
  | some value => simp

/-- An identifier that is no word for a number refers to all outputs of the node that it names. -/
theorem read_name (identifier : isIdentifier id = true) (plain : spellsNumber id = false) :
    read id = .ok (.node id none) := by
  -- The text is not taken for a number, and without a colon it is a name alone.
  have node := (read_identifier identifier [] (by simp)).2
  rw [List.append_nil] at node
  rw [node plain, readNode, Bytes.cut?_of_notMem (colon_notMem identifier)]

/-- A word for a number refers to a constant, even where it is an identifier. -/
theorem read_numberWord (identifier : isIdentifier id = true) (number : spellsNumber id = true) :
    ∃ value, read id = .ok (.constant value) := by
  -- The text is looked up among the words for numbers first.
  have constant := (read_identifier identifier [] (by simp)).1
  rw [List.append_nil] at constant
  exact constant number

/-- An identifier with a number behind a colon refers to one output of the node that it names. There
is no output with a negative number. -/
theorem read_output (identifier : isIdentifier id = true) {n : Int} (fits : fitsWord n = true) :
    read (id ++ byte ':' :: intText n) =
      if n < 0 then .error (.noSlot (id ++ byte ':' :: intText n))
        else .ok (.node id (some n.toNat)) := by
  -- The text is cut at its only colon, and behind it the number reads back.
  have visible : ∀ b ∈ byte ':' :: intText n, Text.Visible b :=
    List.forall_mem_cons.mpr ⟨by decide, visible_intText n⟩
  have node := (read_identifier identifier _ visible).2 (not_spellsNumber_of_colon (by simp))
  have nonempty : id.isEmpty = false := by
    obtain ⟨b, rest, rfl, -⟩ := exists_opens identifier
    rfl
  rw [node, readNode, Bytes.cut?_append (colon_notMem identifier)]
  simp [readWord_intText fits, nonempty]

/-- An identifier behind the mark of a parameter refers to the parameter that it names. -/
theorem read_parameter (identifier : isIdentifier id = true) :
    read (byte '@' :: id) = .ok (.control id) := by
  -- The mark is the first byte of the trimmed text.
  have trimmed : Text.trim (byte '@' :: id) = byte '@' :: id :=
    Text.trim_of_visible (List.forall_mem_cons.mpr ⟨by decide, visible_identifier identifier⟩)
  obtain ⟨b, rest, rfl, -⟩ := exists_opens identifier
  rw [read, trimmed]
  rfl

end Reference

namespace Description

variable {description : Description} {built : Built} {constants : Array Single} {element : Element}

/-- The name of a node means that node, if it is no word for a number. -/
theorem Means.eq_node (ids : (description.nodes.map NodeEntry.id).Nodup) {n : Nat}
    {entry : NodeEntry}
    (declared : description.parts[n]? = some (.unit entry))
    (identifier : isIdentifier entry.id = true)
    (plain : spellsNumber entry.id = false) (means : description.Means constants entry.id element) :
    element = .node n := by
  obtain ⟨reference, read, denotes⟩ := means
  rw [Reference.read_name identifier plain] at read
  cases read
  -- The name is that of no other node.
  generalize same : entry.id = id at denotes
  cases denotes with
  | node there => rw [unit_unique ids declared there same]

/-- A word for a number means a constant, whatever has that name. -/
theorem Means.eq_constant {id : Bytes} (identifier : isIdentifier id = true)
    (number : spellsNumber id = true)
    (means : description.Means constants id element) : ∃ index, element = .constant index := by
  -- The text is read as a constant, and a constant denotes nothing else.
  obtain ⟨reference, read, denotes⟩ := means
  obtain ⟨value, constant⟩ := Reference.read_numberWord identifier number
  rw [constant] at read
  cases read
  cases denotes with
  | constant given => exact ⟨_, rfl⟩

/-- The element at the place of a text is one that the text means. -/
theorem exists_means {texts : List Bytes} {elements : List Element}
    (meanings : List.Forall₂ (description.Means constants) texts elements) {place : Nat}
    {text : Bytes} (written : texts[place]? = some text) :
    ∃ element, elements[place]? = some element ∧ description.Means constants text element := by
  -- Texts and elements go together one by one.
  obtain ⟨inside, same⟩ := List.getElem?_eq_some_iff.mp written
  have bound : place < elements.length := meanings.length_eq ▸ inside
  have means : description.Means constants texts[place] elements[place] := meanings.get inside bound
  exact ⟨elements[place], List.getElem?_eq_getElem bound, same ▸ means⟩

/-- Each input that is written as the given name is wired to the node of that name, unless the name
is a word for a number: then it is wired to a constant. -/
def WiresName (description : Description) (built : Built) (id : Bytes) : Prop :=
  ∀ (i : Nat) (entry : NodeEntry), description.nodes[i]? = some entry → ∃ elements : List Element,
    built.graph.node (description.controls.length + i) =
        { entry.node with inputs := Element.inputs built.graph elements } ∧
      elements.length = entry.inputs.length ∧
      ∀ (place j : Nat) (named : NodeEntry),
        entry.inputs[place]? = some id → description.nodes[j]? = some named → named.id = id →
        (elements[place]? = some (.node (description.controls.length + j)) ↔
          spellsNumber id = false) ∧
          (spellsNumber id = true → ∃ index, elements[place]? = some (.constant index))

/-- What is built has its inputs wired by name. -/
theorem wiresName_of_build (success : description.build = .ok built) (id : Bytes) :
    description.WiresName built id := by
  -- The node has the elements that its texts mean, and a text with the name of a node means that
  -- node unless it is a word for a number.
  obtain ⟨sound, describes⟩ := of_build success
  have part : ∀ i entry, description.nodes[i]? = some entry →
      description.parts[description.controls.length + i]? = some (.unit entry) := by
    intro i entry listed
    exact getElem?_parts_unit.mpr ⟨Nat.le_add_right _ _, by rwa [Nat.add_sub_cancel_left]⟩
  intro i entry listed
  obtain ⟨elements, meanings, same⟩ := describes.node (part i entry listed)
  refine ⟨elements, ?_, meanings.length_eq.symm, ?_⟩
  · rw [same, Element.inputs_congr describes.outputs]
    rfl
  intro place j named written there called
  subst called
  obtain ⟨element, found, means⟩ := exists_means meanings written
  have identifier := (sound.valid.nodes named (List.mem_of_getElem? there)).id.identifier
  rw [found]
  cases spelled : spellsNumber named.id with
  | false =>
    have node := means.eq_node sound.ids (part j named there) identifier spelled
    simp [node]
  | true =>
    obtain ⟨index, constant⟩ := means.eq_constant identifier spelled
    simp [constant]

end Description

/-- An identifier refers to the node that it names, to one of its outputs with a number behind a
colon, and to the parameter that it names behind a mark. Only where it is a word for a number and
stands alone is it a constant instead, and so it is in the graphs that are built. -/
theorem identifier_refers {id : Bytes} (good : GoodName id) :
    (Reference.read id = .ok (.node id none) ↔ spellsNumber id = false) ∧
      (spellsNumber id = true → ∃ value, Reference.read id = .ok (.constant value)) ∧
      (∀ n, fitsWord n = true → Reference.read (id ++ byte ':' :: intText n) =
        if n < 0 then .error (.noSlot (id ++ byte ':' :: intText n))
          else .ok (.node id (some n.toNat))) ∧
      Reference.read (byte '@' :: id) = .ok (.control id) ∧
      ∀ (description : Description) (built : Built), description.build = .ok built →
        description.WiresName built id := by
  -- Only where the identifier stands alone does it matter whether it is a word for a number.
  have identifier := good.identifier
  refine ⟨⟨?_, Reference.read_name identifier⟩, Reference.read_numberWord identifier,
    fun n => Reference.read_output identifier, Reference.read_parameter identifier,
    fun description built success => Description.wiresName_of_build success id⟩
  intro node
  apply eq_false_of_ne_true
  intro number
  obtain ⟨value, constant⟩ := Reference.read_numberWord identifier number
  rw [constant] at node
  cases node

/-- The output of the voice takes its second input from the oscillator that it names. -/
theorem voice_refers : GoodName (utf8 "osc") ∧
    Reference.read (utf8 "osc") = .ok (.node (utf8 "osc") none) ∧
    Reference.read (utf8 "osc:9223372036854775807") =
      .ok (.node (utf8 "osc") (some 9223372036854775807)) ∧
    voice.build = .ok voiceBuilt ∧
    ∃ elements, (voiceBuilt.graph.node 2).inputs = Element.inputs voiceBuilt.graph elements ∧
      elements[1]? = some (.node 3) := by
  -- The name of the oscillator is no word for a number.
  have good : GoodName (utf8 "osc") := Rule.ofIdentifier_eq_none_iff.mp (by decide)
  obtain ⟨all, -, one, -, built⟩ := identifier_refers good
  obtain ⟨elements, node, -, wired⟩ := built voice voiceBuilt voice_built 0 _ rfl
  refine ⟨good, all.mpr rfl, ?_, voice_built, elements, congrArg Node.inputs node, ?_⟩
  · exact one 9223372036854775807 rfl
  · exact (wired 1 1 _ rfl rfl rfl).1.mpr rfl

/-- An oscillator with the name of a number, and the output that is to play it. -/
def endless : Description where
  name := utf8 "endless"
  controls := []
  nodes := [
    ⟨utf8 "inf", utf8 "SinOsc", utf8 "audio", none, 0, [utf8 "440", utf8 "0"]⟩,
    ⟨utf8 "out", utf8 "Out", utf8 "audio", some 0, 0, [utf8 "0", utf8 "inf"]⟩]
  roots := some [utf8 "out"]

/-- The name is allowed and the description builds, but the output plays a constant. -/
theorem endless_plays_constant : GoodName (utf8 "inf") ∧
    Reference.read (utf8 "inf") = .ok (.constant ⟨0x7f800000⟩) ∧
    endless.build.map (fun built => (built.nodes, (built.graph.node 1).inputs)) =
      .ok ([(utf8 "inf", 0), (utf8 "out", 1)], [.constant 2, .constant 3]) := by
  -- The name of the node is a word for a number.
  have good : GoodName (utf8 "inf") := Rule.ofIdentifier_eq_none_iff.mp (by decide)
  exact ⟨good, by decide +kernel, by decide +kernel⟩

end Patchbay
